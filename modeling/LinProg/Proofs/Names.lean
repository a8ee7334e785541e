import Mathlib
import LinProg.Tableau.Pivot

set_option autoImplicit false

namespace LinProg

namespace Label

def Distinct (names : List Label) : Prop := names.Pairwise fun a b => (a == b) = false

theorem distinct_same {names : List Label} {a b : Label} (distinct : Distinct names)
    (first : a ∈ names) (second : b ∈ names) (same : (a == b) = true) : a = b := by
  obtain ⟨i, inside, rfl⟩ := List.mem_iff_getElem.mp first
  obtain ⟨k, within, rfl⟩ := List.mem_iff_getElem.mp second
  have apart := List.pairwise_iff_getElem.mp distinct
  rcases Nat.lt_trichotomy i k with before | equal | after
  · rw [apart i k inside within before] at same
    cases same
  · subst k
    rfl
  · rw [BEq.comm, apart k i within inside after] at same
    cases same

theorem distinct_nodup {names : List Label} (distinct : Distinct names) : names.Nodup := by
  refine List.Pairwise.imp ?_ distinct
  intro a b apart same
  rw [same, beq_self_eq_true] at apart
  cases apart

theorem index_member {names : List Label} {name : Label} (distinct : Distinct names) (member : name ∈ names) :
    names[names.idxOf name]? = some name := by
  have found : names.findIdx (· == name) < names.length :=
    List.findIdx_lt_length_of_exists ⟨name, member, beq_self_eq_true name⟩
  have same : (names[names.findIdx (· == name)] == name) = true :=
    List.findIdx_getElem (p := (· == name))
  unfold List.idxOf
  rw [List.getElem?_eq_getElem found, distinct_same distinct (List.getElem_mem found) member same]

theorem place_in_member {names : List Label} {name : Label} (member : name ∈ names) :
    name.placeIn names = .ok (names.idxOf name) := by
  have present : names.contains name = true := List.contains_iff_exists_mem_beq.mpr ⟨name, member, beq_self_eq_true name⟩
  rw [placeIn, if_pos present]

theorem trade_perm (a b c d : List Label) (x y : Label) :
    ((a ++ y :: b) ++ (c ++ x :: d)).Perm ((a ++ x :: b) ++ (c ++ y :: d)) := by
  have gather (u v : Label) : ((a ++ u :: b) ++ (c ++ v :: d)).Perm (u :: v :: ((a ++ b) ++ (c ++ d))) :=
    (List.perm_middle.append List.perm_middle).trans (List.perm_middle.cons u)
  exact (gather y x).trans ((List.Perm.swap x y _).trans (gather x y).symm)

theorem exchange_perm (kept others : List Label) (i k : Nat) (left : i < kept.length) (right : k < others.length) :
    (kept.set i others[k] ++ others.set k kept[i]).Perm (kept ++ others) := by
  have keptSplit : kept.take i ++ kept[i] :: kept.drop (i + 1) = kept := by simp
  have othersSplit : others.take k ++ others[k] :: others.drop (k + 1) = others := by simp
  have traded := trade_perm (kept.take i) (kept.drop (i + 1)) (others.take k) (others.drop (k + 1)) kept[i] others[k]
  rw [keptSplit, othersSplit] at traded
  rw [List.set_eq_take_append_cons_drop, if_pos left, List.set_eq_take_append_cons_drop, if_pos right]
  exact traded

end Label

end LinProg
