import CardCatalog.Json.Basic
import Mathlib.Data.List.Forall2
import Mathlib.Data.List.Perm.Basic

/-!
# Parts of JSON values

Where no key of an object occurs twice, the order of its members does not matter to a look-up
(`lookup_of_perm`). Lists that are written item by item are read back if the items are
(`map_m_map_eq_some`).
-/

namespace CardCatalog

/-! ## Looking up members -/

/-- A key is not looked up to a member with another key. -/
theorem lookup_cons_of_ne {key other : String} (h : key ≠ other) (value : Json)
    (members : List (String × Json)) :
    List.lookup key ((other, value) :: members) = members.lookup key := by
  rw [List.lookup_cons, beq_false_of_ne h]

/-- Where no key occurs twice, a key is looked up to the value of its member. -/
theorem lookup_eq_some_iff_mem {members : List (String × Json)} (hkeys : (members.map Prod.fst).Nodup)
    {key : String} {value : Json} : members.lookup key = some value ↔ (key, value) ∈ members := by
  induction members with
  | nil => simp
  | cons member members ih =>
      obtain ⟨other, kept⟩ := member
      obtain ⟨hother, hmembers⟩ := List.nodup_cons.1 hkeys
      rw [List.mem_cons]
      by_cases heq : key = other
      · subst heq
        have habsent : (key, value) ∉ members := fun hmem =>
          hother (List.mem_map.2 ⟨_, hmem, rfl⟩)
        simp [habsent, eq_comm]
      · rw [lookup_cons_of_ne heq, ih hmembers]
        simp [heq]

/-- Where no key occurs twice, the order of the members does not matter to a look-up. -/
theorem lookup_of_perm {members other : List (String × Json)} (hkeys : (members.map Prod.fst).Nodup)
    (h : members.Perm other) (key : String) : other.lookup key = members.lookup key := by
  have hother : (other.map Prod.fst).Nodup := (h.map Prod.fst).nodup_iff.1 hkeys
  refine Option.ext fun value => ?_
  rw [lookup_eq_some_iff_mem hother, lookup_eq_some_iff_mem hkeys, h.mem_iff]

/-- Members with related values under the same keys are looked up to related values. -/
theorem lookup_rel {R : Json → Json → Prop} {members other : List (String × Json)}
    (h : List.Forall₂ (fun m n => m.1 = n.1 ∧ R m.2 n.2) members other) (key : String) :
    Option.Rel R (members.lookup key) (other.lookup key) := by
  induction h with
  | nil => exact .none
  | @cons m n members other hfirst _ ih =>
      obtain ⟨hkey, hvalue⟩ := hfirst
      rw [List.lookup_cons, List.lookup_cons, ← hkey]
      split
      · exact .some hvalue
      · exact ih

/-- A key that occurs once has the value of its member. -/
theorem values_at_of_once {before after : List (String × Json)} {key : String}
    (h : ∀ member ∈ before ++ after, member.1 ≠ key) (value : Json) :
    Json.valuesAt (before ++ (key, value) :: after) key = [value] := by
  have hother {members : List (String × Json)} (hmembers : members ⊆ before ++ after) :
      members.filter (fun member => member.1 == key) = [] :=
    List.filter_eq_nil_iff.2 fun member hmember => by simpa using h member (hmembers hmember)
  rw [Json.valuesAt, List.filter_append, List.filter_cons, if_pos (beq_self_eq_true key),
    hother (List.subset_append_left _ _), hother (List.subset_append_right _ _)]
  rfl

/-! ## Values read back -/

/-- What is read back one by one is read back as a list. -/
theorem map_m_map_eq_some {α β : Type} (write : α → β) (read : β → Option α)
    (h : ∀ a, read (write a) = some a) (as : List α) : (as.map write).mapM read = some as := by
  induction as with
  | nil => rfl
  | cons a as ih =>
      rw [List.map_cons, List.mapM_cons, h, ih]
      rfl

namespace Json

/-- A value that is read as a text is that text. -/
theorem eq_text_of_as_text {value : Json} {s : String} (h : value.asText? = some s) :
    value = .text s := by
  cases value with
  | text _ => rw [Option.some.inj h]
  | _ => exact absurd h (by simp [asText?])

/-- An integer of 64 bits is read back. -/
theorem as_int64_of_int (n : Int64) : (ofInt n.toInt).asInt64? = some n := by
  have hbounds : Int64.minValue.toInt ≤ n.toInt ∧ n.toInt ≤ Int64.maxValue.toInt :=
    ⟨n.minValue_le_toInt, n.toInt_le⟩
  have hread : (ofInt n.toInt).asInt64? =
      if Int64.minValue.toInt ≤ n.toInt ∧ n.toInt ≤ Int64.maxValue.toInt then
        some (Int64.ofInt n.toInt) else none := rfl
  rw [hread, if_pos hbounds, Int64.ofInt_toInt]

/-- Items are usable if each of them is. -/
theorem items_usable_eq_all (items : List Json) : itemsUsable items = items.all isUsable := by
  induction items with
  | nil => rfl
  | cons item items ih => rw [itemsUsable, ih, List.all_cons]

/-- Members are usable if each of their values is. -/
theorem members_usable_eq_all (members : List (String × Json)) :
    membersUsable members = members.all fun member => member.2.isUsable := by
  induction members with
  | nil => rfl
  | cons member members ih => rw [membersUsable, ih, List.all_cons]

/-- Texts are read back. -/
theorem as_texts_of_texts (texts : List String) : (ofTexts texts).asTexts? = some texts :=
  map_m_map_eq_some text asText? (fun _ => rfl) texts

end Json

end CardCatalog
