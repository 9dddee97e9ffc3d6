import AiScript.DataSet

/-!
# The text about an inconsistent catalog

Every fault of a snapshot is told in one line. So the text about all of them, which puts a heading
before them and line ends between, comes apart into the heading and one line for each fault again:
none is lost, and no two are merged, however many there are.
-/

namespace AiScript

/-- A text without line ends. -/
def OneLine (text : String) : Prop := '\n' ∉ text.toList

instance (text : String) : Decidable (OneLine text) := inferInstanceAs (Decidable (¬ _))

/-- The lines of a text. -/
def textLines (text : String) : List String := (text.split '\n').toList.map fun line => line.copy

/-- Two texts on one line are one line. -/
theorem OneLine.append {front rest : String} (hfront : OneLine front) (hrest : OneLine rest) :
    OneLine (front ++ rest) := by
  rw [OneLine, String.toList_append, List.mem_append]
  exact not_or.mpr ⟨hfront, hrest⟩

/-- Numbers are written on one line. -/
theorem oneLine_toString (number : Nat) : OneLine (toString number) := by
  intro hend
  rw [Nat.toString_eq_repr, Nat.toList_repr] at hend
  have hdigit := Nat.isDigit_of_mem_toDigits (by decide) (by decide) hend
  exact absurd hdigit (by decide)

/-- The name of a sort of record is one line. -/
theorem RecordSort.oneLine_name (sort : RecordSort) : OneLine sort.name := by
  cases sort <;> decide

/-- The name of a record that uses a template is one line. -/
theorem TemplateUse.oneLine_text (use : TemplateUse) : OneLine use.text := by
  cases use with
  | creatureSpawn guid =>
    exact (show OneLine "creature spawn " by decide).append (oneLine_toString guid.toNat)
  | gameObjectSpawn guid =>
    exact (show OneLine "gameobject spawn " by decide).append (oneLine_toString guid.toNat)
  | creatureText group =>
    exact (show OneLine "creature text group " by decide).append (oneLine_toString group.toNat)

/-- A fault is told in one line. -/
theorem Fault.oneLine_text (fault : Fault) : OneLine fault.text := by
  cases fault with
  | repeatedId sort id =>
    exact (((show OneLine "duplicate " by decide).append sort.oneLine_name).append
      (show OneLine " id " by decide)).append (oneLine_toString id.toNat)
  | oversizedSpell id slots =>
    have hspell := (show OneLine "invalid value (spell " by decide).append
      (oneLine_toString id.toNat)
    have hslots := (hspell.append (show OneLine " has " by decide)).append (oneLine_toString slots)
    exact ((hslots.append (show OneLine " effect slots (max " by decide)).append
      (oneLine_toString Spell.slotCount)).append (show OneLine "))" by decide)
  | missingTemplate use entry =>
    have hsort := (show OneLine "missing " by decide).append use.sort.oneLine_name
    have hentry := (hsort.append (show OneLine " " by decide)).append (oneLine_toString entry.toNat)
    exact ((hentry.append (show OneLine " (" by decide)).append use.oneLine_text).append
      (show OneLine ")" by decide)

/-- The lines of texts on one line each, put together with line ends, are these texts. -/
theorem textLines_intercalate {texts : List String} (h : ∀ text ∈ texts, OneLine text)
    (hsome : texts ≠ []) : textLines ("\n".intercalate texts) = texts := by
  have hlines := String.toList_split_intercalate h
  rwa [if_neg hsome] at hlines

/-- The text about faults has a heading, and then one line for each of them, in their order. -/
theorem LoadFailure.textLines_faultsText (faults : List Fault) :
    textLines (faultsText faults) =
      "catalog validation failed:" :: faults.map fun fault => "- " ++ fault.text := by
  have hlines : ∀ text ∈ "catalog validation failed:" :: faults.map fun fault => "- " ++ fault.text,
      OneLine text := by
    rw [List.forall_mem_cons, List.forall_mem_map]
    exact ⟨by decide, fun fault _ => (show OneLine "- " by decide).append fault.oneLine_text⟩
  exact textLines_intercalate hlines (List.cons_ne_nil _ _)

end AiScript
