import Mathlib.Data.List.Lex
import Mathlib.Data.List.Perm.Subperm
import Mathlib.Tactic.Lemma
import OutlineLint.FileTree.Walk

/-!
# The order of paths

Components are totally ordered by their keys, and so are lists of components. Paths in their order,
each once, come strictly one after the other (`pairwise_ordered`), and a list of paths that do so is
known by its members (`eq_of_pairwise_precedes`).
-/

namespace OutlineLint

open OutlineLint.Path

/-! ### Components -/

namespace Path.Component

lemma before_iff {a b : Component} :
    a.before b = true ↔ List.Lex (fun m n : Nat => m < n) a.key b.key := by
  simp [before]

instance : IsOrderConnected Component fun a b => a.before b = true where
  conn a b c h := by
    simp only [before_iff] at h ⊢
    exact IsOrderConnected.conn _ _ _ h

instance : Std.Trichotomous fun a b : Component => a.before b = true where
  trichotomous a b hab hba := by
    rw [before_iff] at hab hba
    exact key_injective (Std.Trichotomous.trichotomous _ _ hab hba)

instance : Std.Asymm fun a b : Component => a.before b = true where
  asymm a b hab hba := by
    rw [before_iff] at hab hba
    exact Std.Asymm.asymm _ _ hab hba

end Path.Component

/-! ### Paths -/

namespace Path

variable {p q : Path}

/-- The components of `p` come before those of `q`. -/
def Precedes (p q : Path) : Prop := p.components.lex q.components Component.before = true

lemma precedes_iff :
    Precedes p q ↔ List.Lex (fun a b => a.before b = true) p.components q.components := by
  simp [Precedes]

lemma le_iff : p.le q = true ↔ ¬ Precedes q p := by
  simp [le, Precedes]

lemma Precedes.asymm (h : Precedes p q) : ¬ Precedes q p := by
  rw [precedes_iff] at h ⊢
  exact Std.Asymm.asymm _ _ h

lemma Precedes.ne (h : Precedes p q) : p ≠ q := by
  rintro rfl
  exact h.asymm h

lemma Precedes.trans_le {r : Path} (hpq : Precedes p q) (hqr : q.le r = true) :
    Precedes p r := by
  rw [le_iff, precedes_iff] at hqr
  rw [precedes_iff] at hpq ⊢
  exact (IsOrderConnected.conn _ r.components _ hpq).resolve_right hqr

/-- Paths that do not come one before the other have the same components. -/
lemma components_eq_of_not_precedes (hpq : ¬ Precedes p q) (hqp : ¬ Precedes q p) :
    p.components = q.components := by
  rw [precedes_iff] at hpq hqp
  exact Std.Trichotomous.trichotomous _ _ hpq hqp

lemma le_total (p q : Path) : (p.le q || q.le p) = true := by
  rw [Bool.or_eq_true, le_iff, le_iff, ← not_and_or]
  exact fun h => h.1.asymm h.2

lemma le_trans (p q r : Path) (hpq : p.le q = true) (hqr : q.le r = true) : p.le r = true := by
  rw [le_iff, precedes_iff] at *
  exact IsOrderConnected.neg_trans hqr hpq

/-- Paths that come strictly one after the other are known by what paths they are. -/
lemma eq_of_pairwise_precedes {ps qs : List Path} (hps : ps.Pairwise Precedes)
    (hqs : qs.Pairwise Precedes) (h : ∀ p, p ∈ ps ↔ p ∈ qs) : ps = qs := by
  have hperm : ps.Perm qs :=
    (List.perm_ext_iff_of_nodup (hps.imp Precedes.ne) (hqs.imp Precedes.ne)).mpr h
  exact hperm.eq_of_pairwise (fun _ _ _ _ hpq hqp => absurd hqp hpq.asymm) hps hqs

/-- The list has all good paths and no others, strictly in their order. -/
structure Enumerates (good : Path → Prop) (ps : List Path) : Prop where
  mem_iff : ∀ p, p ∈ ps ↔ good p
  increasing : ps.Pairwise Precedes

lemma Enumerates.filter {good : Path → Prop} {ps : List Path} (h : Enumerates good ps)
    (keep : Path → Bool) : Enumerates (fun p => good p ∧ keep p = true) (ps.filter keep) where
  mem_iff p := by rw [List.mem_filter, h.mem_iff]
  increasing := h.increasing.filter keep

lemma Enumerates.congr {good good' : Path → Prop} {ps : List Path} (h : Enumerates good ps)
    (hsame : ∀ p, good p ↔ good' p) : Enumerates good' ps where
  mem_iff p := (h.mem_iff p).trans (hsame p)
  increasing := h.increasing

/-- A list of good paths that is as long as the list of all of them has all of them. -/
lemma Enumerates.mem_of_length_eq {good good' : Path → Prop} {ps qs : List Path}
    (h : Enumerates good ps) (h' : Enumerates good' qs) (hsub : ∀ p, good' p → good p)
    (hlength : ps.length = qs.length) {p : Path} (hp : good p) : good' p := by
  have hnodup : qs.Nodup := h'.increasing.imp Precedes.ne
  have hsubperm : qs.Subperm ps := by
    refine List.subperm_of_subset hnodup fun q hq => ?_
    exact (h.mem_iff q).mpr (hsub q ((h'.mem_iff q).mp hq))
  have hperm := hsubperm.perm_of_length_le hlength.le
  exact (h'.mem_iff p).mp (hperm.mem_iff.mpr ((h.mem_iff p).mpr hp))

end Path

/-! ### Paths in their order, each once -/

namespace FileTree

variable {p : Path} {paths : List Path}

lemma dropRepeated_sublist (paths : List Path) : (dropRepeated paths).Sublist paths := by
  fun_induction dropRepeated paths with
  | case1 p q rest h ih => exact ih.trans ((List.sublist_cons_self q rest).cons_cons p)
  | case2 p q rest h ih => exact ih.cons_cons p
  | case3 paths h => exact List.Sublist.refl _

/-- No path is lost if there are not two with the same components. -/
lemma mem_dropRepeated (hinj : ∀ p ∈ paths, ∀ q ∈ paths, p.components = q.components → p = q)
    (hp : p ∈ paths) : p ∈ dropRepeated paths := by
  fun_induction dropRepeated paths with
  | case1 first second rest h ih =>
    have hsame : first = second := hinj _ (by simp) _ (by simp) (by simpa [equivalent] using h)
    refine ih (fun p hp q hq => hinj p ?_ q ?_) ?_
    · exact ((List.sublist_cons_self second rest).cons_cons first).mem hp
    · exact ((List.sublist_cons_self second rest).cons_cons first).mem hq
    · simpa [hsame] using hp
  | case2 first second rest h ih =>
    rcases List.mem_cons.mp hp with rfl | hp
    · exact List.mem_cons_self
    · refine List.mem_cons_of_mem _ (ih (fun p hp q hq => hinj p ?_ q ?_) hp)
      · exact List.mem_cons_of_mem _ hp
      · exact List.mem_cons_of_mem _ hq
  | case3 paths h => exact hp

lemma pairwise_dropRepeated (h : paths.Pairwise fun p q => p.le q = true) :
    (dropRepeated paths).Pairwise Precedes := by
  fun_induction dropRepeated paths with
  | case1 first second rest hsame ih =>
    exact ih (h.sublist ((List.sublist_cons_self second rest).cons_cons first))
  | case2 first second rest hdiffer ih =>
    rw [List.pairwise_cons] at h
    have hnext : Precedes first second := by
      have hle := le_iff.mp (h.1 second List.mem_cons_self)
      by_contra hnot
      exact hdiffer (by simpa [equivalent] using components_eq_of_not_precedes hnot hle)
    refine .cons (fun q hq => ?_) (ih h.2)
    rcases List.mem_cons.mp ((dropRepeated_sublist _).mem hq) with rfl | hq
    · exact hnext
    · exact hnext.trans_le ((List.pairwise_cons.mp h.2).1 q hq)
  | case3 paths hshort =>
    match paths, hshort with
    | [], _ => exact .nil
    | [p], _ => exact List.pairwise_singleton _ p
    | p :: q :: rest, hshort => exact (hshort p q rest rfl).elim

lemma ordered_singleton (p : Path) : ordered [p] = [p] := by
  simp [ordered, dropRepeated]

lemma pairwise_ordered (paths : List Path) : (ordered paths).Pairwise Precedes :=
  pairwise_dropRepeated (List.pairwise_mergeSort le_trans le_total paths)

lemma mem_ordered_iff (hinj : ∀ p ∈ paths, ∀ q ∈ paths, p.components = q.components → p = q) :
    p ∈ ordered paths ↔ p ∈ paths := by
  constructor
  · intro hp
    exact List.mem_mergeSort.mp ((dropRepeated_sublist _).mem hp)
  · intro hp
    refine mem_dropRepeated (fun p hp q hq => hinj p ?_ q ?_) (List.mem_mergeSort.mpr hp)
    · exact List.mem_mergeSort.mp hp
    · exact List.mem_mergeSort.mp hq

end FileTree

end OutlineLint
