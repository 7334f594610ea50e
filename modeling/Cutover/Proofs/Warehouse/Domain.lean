import Cutover.Proofs.Datum.Decode
import Cutover.Proofs.Text.LetterCase
import Cutover.Proofs.Text.Trim
import Cutover.Warehouse.Domain

/-!
# How a domain is spelled

A user's text spells a domain if it is the name of the domain in any letter case with any white
space around it. No text spells two domains.
-/
namespace Cutover.Domain

open Text (isBlank)

/-- Whether a text is the name of a domain in any case, with white space around it. -/
def SpelledBy (d : Domain) (text : String) : Prop :=
  ∃ before word after : List Char, text.toList = before ++ word ++ after ∧
    (∀ c ∈ before, c ∈ Text.blanks) ∧ (∀ c ∈ after, c ∈ Text.blanks) ∧
    word.map Char.toLower = d.name.toList

theorem isBlank_of_mem_name (d : Domain) : ∀ c ∈ d.name.toList, isBlank c = false := by
  have hall : d.name.toList.all (!isBlank ·) = true := by cases d <;> decide
  simpa using hall

theorem normalise_eq_name_iff {text : String} {d : Domain} :
    normalise text = d.name ↔ d.SpelledBy text := by
  have hname : normalise text = d.name ↔
      (Text.trim text.toList).map Char.toLower = d.name.toList := by
    rw [normalise, ← String.toList_inj, String.toList_ofList]
  have hword : ∀ word : List Char, word.map Char.toLower = d.name.toList →
      word ≠ [] ∧ ∀ c ∈ word, isBlank c = false := by
    intro word hw
    constructor
    · rintro rfl
      cases d <;> exact absurd hw (by decide)
    · intro c hc
      have hlower : c.toLower ∈ d.name.toList := hw ▸ List.mem_map_of_mem hc
      rw [← Text.isBlank_toLower]
      exact d.isBlank_of_mem_name _ hlower
  rw [hname]
  simp only [SpelledBy, ← Text.isBlank_iff]
  constructor
  · intro h
    obtain ⟨before, after, htext, hbefore, hafter⟩ := Text.exists_trim text.toList
    exact ⟨before, _, after, htext, hbefore, hafter, h⟩
  · rintro ⟨before, word, after, htext, hbefore, hafter, hw⟩
    obtain ⟨hne, hblank⟩ := hword word hw
    rwa [(Text.trim_eq_iff hne hblank).mpr ⟨before, after, htext, hbefore, hafter⟩]

/-- Reading a user's text gives the domain that it spells. -/
theorem ofText?_eq_some_iff {text : String} {d : Domain} :
    ofText? text = some d ↔ d.SpelledBy text := by
  rw [← normalise_eq_name_iff]
  constructor
  · intro h
    rw [ofText?] at h
    have hname : d.name = normalise text := by simpa using List.find?_some h
    exact hname.symm
  · intro h
    rw [ofText?, h]
    exact find?_name (by decide) (mem_all d)

end Cutover.Domain
