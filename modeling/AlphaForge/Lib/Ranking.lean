/-
  File:      AlphaForge/Lib/Ranking.lean
  Subject:   Stable sorting by a key, and the best of a list. No program fact.

  * `sortOn` -- a stable sort by a key in a linear order; `stable_sortOn` says of the equal keys
    what held before.
  * `le_of_mem_take` -- nothing outside the first `n` is before any of them.
  * **`sortOn_perm`** -- when a sort forgets the order of its input: where two elements with equal
    keys stand in an order of their own.
  * `keepFirstBest` -- of every group of rivals the first of the best stays as it is, the others
    are marked; `perm_keepFirstBest` says when the order of the input does not matter, and
    `exists_kept` that what is marked is no better than one that stays.
-/
import Mathlib.Data.List.Sort

namespace AlphaForge.Lib

variable {α κ : Type} [LinearOrder κ]

/-! ## 1. Sorting -/

section Sorting

variable {key : α → κ}

/-- `sorted(items, key=key)`. -/
def sortOn (key : α → κ) (items : List α) : List α := items.insertionSort fun a b => key a ≤ key b

theorem perm_of_sortOn (items : List α) : (sortOn key items).Perm items :=
  List.perm_insertionSort _ items

@[simp] theorem mem_sortOn {a : α} {items : List α} : a ∈ sortOn key items ↔ a ∈ items :=
  List.mem_insertionSort _

/-- **The sort is stable**: what held of every two elements with equal keys still does. -/
theorem stable_sortOn {t : α → α → Prop} {items : List α}
    (h : items.Pairwise fun a b => key a = key b → t a b) :
    (sortOn key items).Pairwise fun a b => key a ≤ key b ∧ (key a = key b → t a b) := by
  have hinsert : ∀ (x : α) (sorted : List α), (∀ y ∈ sorted, key x = key y → t x y) →
      (sorted.Pairwise fun a b => key a ≤ key b ∧ (key a = key b → t a b)) →
      ((sorted.orderedInsert (fun a b => key a ≤ key b) x).Pairwise
        fun a b => key a ≤ key b ∧ (key a = key b → t a b)) := by
    intro x sorted hx hsorted
    induction sorted with
    | nil => exact List.pairwise_singleton _ x
    | cons y rest ih =>
      obtain ⟨hy, hrest⟩ := List.pairwise_cons.mp hsorted
      by_cases hle : key x ≤ key y
      · rw [List.orderedInsert_cons, if_pos hle]
        refine List.pairwise_cons.mpr ⟨fun z hz => ⟨?_, hx z hz⟩, hsorted⟩
        rcases List.mem_cons.mp hz with hz | hz
        · exact hz ▸ hle
        · exact hle.trans (hy z hz).1
      · rw [List.orderedInsert_cons, if_neg hle]
        have hlt : key y < key x := not_le.mp hle
        refine List.pairwise_cons.mpr ⟨fun z hz => ?_, ?_⟩
        · rcases (List.mem_orderedInsert _).mp hz with hz | hz
          · rw [hz]
            exact ⟨hlt.le, fun heq => absurd heq hlt.ne⟩
          · exact hy z hz
        · exact ih (fun z hz => hx z (List.mem_cons_of_mem y hz)) hrest
  induction items with
  | nil => exact List.Pairwise.nil
  | cons x rest ih =>
    obtain ⟨hx, hrest⟩ := List.pairwise_cons.mp h
    exact hinsert x (sortOn key rest) (fun y hy => hx y (mem_sortOn.mp hy)) (ih hrest)

theorem pairwise_sortOn (items : List α) : (sortOn key items).Pairwise fun a b => key a ≤ key b :=
  List.pairwise_insertionSort _ items

/-- The elements with one key keep their order. -/
theorem filter_sortOn (k : κ) (items : List α) :
    (sortOn key items).filter (fun a => key a = k) = items.filter fun a => key a = k := by
  have hinsert : ∀ (x : α) (l : List α),
      (l.orderedInsert (fun a b => key a ≤ key b) x).filter (fun a => key a = k) =
        (x :: l).filter fun a => key a = k := by
    intro x l
    induction l with
    | nil => rfl
    | cons y rest ih =>
      by_cases hle : key x ≤ key y
      · rw [List.orderedInsert_cons, if_pos hle]
      · rw [List.orderedInsert_cons, if_neg hle, List.filter_cons, ih]
        have hlt : key y < key x := not_le.mp hle
        by_cases hx : key x = k
        · have hy : key y ≠ k := fun h => hlt.ne (h.trans hx.symm)
          simp [hx, hy]
        · simp [List.filter_cons, hx]
  induction items with
  | nil => rfl
  | cons x rest ih =>
    have hstep := hinsert x (sortOn key rest)
    rw [List.filter_cons, ih] at hstep
    rw [List.filter_cons]
    exact hstep

theorem sortOn_sorted {items : List α} (h : items.Pairwise fun a b => key a ≤ key b) :
    sortOn key items = items := h.insertionSort_eq

theorem lookup_sortOn {β : Type} [BEq κ] [LawfulBEq κ] (entries : List (κ × β)) (k : κ) :
    (sortOn Prod.fst entries).lookup k = entries.lookup k := by
  have hfilter : ∀ l : List (κ × β), l.lookup k =
      ((l.filter fun e => e.1 = k).head?).map Prod.snd := by
    intro l
    induction l with
    | nil => rfl
    | cons e rest ih =>
      rw [show e :: rest = (e.1, e.2) :: rest from rfl, List.lookup_cons]
      by_cases h : e.1 = k
      · simp [h]
      · have hb : (k == e.1) = false := beq_eq_false_iff_ne.mpr fun heq => h heq.symm
        simp [h, hb, ih]
  rw [hfilter, hfilter, filter_sortOn]

/-- Nothing outside the first `n` is before any of them. -/
theorem le_of_mem_take {items : List α} {n : ℕ} {a b : α} (ha : a ∈ (sortOn key items).take n)
    (hb : b ∈ items) (hout : b ∉ (sortOn key items).take n) : key a ≤ key b := by
  have hsorted : (sortOn key items).Pairwise fun a b => key a ≤ key b := pairwise_sortOn items
  have hsplit := List.take_append_drop n (sortOn key items)
  rw [← hsplit, List.pairwise_append] at hsorted
  have hmem : b ∈ sortOn key items := mem_sortOn.mpr hb
  rw [← hsplit, List.mem_append] at hmem
  exact hsorted.2.2 a ha b (hmem.resolve_left hout)

/-- **When a sort forgets the order of its input**: the elements with equal keys stand in one
    order in both inputs, and it tells different elements apart. -/
theorem sortOn_perm {t : α → α → Prop} {items items' : List α} (hperm : items.Perm items')
    (h : items.Pairwise fun a b => key a = key b → t a b)
    (h' : items'.Pairwise fun a b => key a = key b → t a b)
    (hanti : ∀ a ∈ items, ∀ b ∈ items, key a = key b → t a b → t b a → a = b) :
    sortOn key items = sortOn key items' := by
  have hsame : (sortOn key items).Perm (sortOn key items') :=
    (perm_of_sortOn items).trans (hperm.trans (perm_of_sortOn items').symm)
  refine hsame.eq_of_pairwise (fun a b ha hb hab hba => ?_) (stable_sortOn h) (stable_sortOn h')
  have heq : key a = key b := le_antisymm hab.1 hba.1
  exact hanti a (mem_sortOn.mp ha) b (hperm.mem_iff.mpr (mem_sortOn.mp hb)) heq (hab.2 heq)
    (hba.2 heq.symm)

/-- Where different elements have different keys, a sort forgets the order of its input. -/
theorem sortOn_perm_of_injective {items items' : List α} (hperm : items.Perm items')
    (h : ∀ a ∈ items, ∀ b ∈ items, key a = key b → a = b) :
    sortOn key items = sortOn key items' := by
  have hties : ∀ l : List α, l.Pairwise fun a b => key a = key b → True :=
    fun l => List.pairwise_of_forall fun _ _ _ => trivial
  exact sortOn_perm hperm (hties _) (hties _) fun a ha b hb heq _ _ => h a ha b hb heq

end Sorting

/-! ## 2. The first of the best -/

section FirstBest

variable (rival : α → α → Prop) [DecidableRel rival] (key : α → κ) (mark : α → α)

/-- An earlier rival is at least as good, or a later one is better. -/
def Beaten (before : List α) (x : α) (after : List α) : Prop :=
  (∃ y ∈ before, rival y x ∧ key y ≤ key x) ∨ ∃ y ∈ after, rival y x ∧ key y < key x

instance (before : List α) (x : α) (after : List α) : Decidable (Beaten rival key before x after) :=
  inferInstanceAs (Decidable (_ ∨ _))

/-- Mark what is beaten; `before` is what stands before the list. -/
def keepFirstBest (before : List α) : List α → List α
  | [] => []
  | x :: rest =>
    (if Beaten rival key before x rest then mark x else x) :: keepFirstBest (before ++ [x]) rest

variable {rival key mark}

omit [DecidableRel rival] in
theorem beaten_congr {before before' after after' : List α} {x : α}
    (h : ∀ y, y ∈ before ↔ y ∈ before') (h' : ∀ y, y ∈ after ↔ y ∈ after') :
    Beaten rival key before x after ↔ Beaten rival key before' x after' := by
  unfold Beaten
  simp only [h, h']

theorem keepFirstBest_congr {before before' : List α} (h : ∀ y, y ∈ before ↔ y ∈ before')
    (l : List α) : keepFirstBest rival key mark before l =
      keepFirstBest rival key mark before' l := by
  induction l generalizing before before' with
  | nil => rfl
  | cons x rest ih =>
    have hx : ∀ y, y ∈ before ++ [x] ↔ y ∈ before' ++ [x] := fun y => by
      rw [List.mem_append, List.mem_append, h y]
    unfold keepFirstBest
    rw [ih hx]
    by_cases hb : Beaten rival key before x rest
    · rw [if_pos hb, if_pos ((beaten_congr h fun _ => Iff.rfl).mp hb)]
    · rw [if_neg hb, if_neg fun hb' => hb ((beaten_congr h fun _ => Iff.rfl).mpr hb')]

omit [DecidableRel rival] in
/-- Moving an element from one side to the other matters to a rival with the same key only. -/
theorem beaten_move {before after : List α} {x y : α} (h : rival y x → key y ≠ key x) :
    Beaten rival key (before ++ [y]) x after ↔ Beaten rival key before x (y :: after) := by
  have hy : (rival y x ∧ key y ≤ key x) ↔ (rival y x ∧ key y < key x) :=
    and_congr_right fun hr => ⟨fun hle => lt_of_le_of_ne hle (h hr), le_of_lt⟩
  unfold Beaten
  simp only [List.mem_append, List.mem_cons, List.not_mem_nil, or_false, or_and_right, exists_or,
    exists_eq_left, hy]
  exact or_assoc

/-- **The order of the input does not matter** where rivals with equal keys are equal. -/
theorem perm_keepFirstBest (hsymm : ∀ x y, rival x y → rival y x) {l l' : List α}
    (hperm : l.Perm l') (hties : ∀ x ∈ l, ∀ y ∈ l, rival x y → key x = key y → x = y)
    (before : List α) :
    (keepFirstBest rival key mark before l).Perm (keepFirstBest rival key mark before l') := by
  induction hperm generalizing before with
  | nil => exact List.Perm.nil
  | @cons x l l' hperm ih =>
    have hb : Beaten rival key before x l ↔ Beaten rival key before x l' :=
      beaten_congr (fun _ => Iff.rfl) fun y => hperm.mem_iff
    unfold keepFirstBest
    simp only [hb]
    refine (ih (fun a ha b hb => hties a ?_ b ?_) (before ++ [x])).cons _
    · exact List.mem_cons_of_mem x ha
    · exact List.mem_cons_of_mem x hb
  | swap x y l =>
    by_cases htie : rival x y ∧ key x = key y
    · have heq : x = y := hties x (by simp) y (by simp) htie.1 htie.2
      rw [heq]
    · have hx : rival y x → key y ≠ key x := fun hr hk => htie ⟨hsymm y x hr, hk.symm⟩
      have hy : rival x y → key x ≠ key y := fun hr hk => htie ⟨hr, hk⟩
      have hmem : ∀ z, z ∈ before ++ [y] ++ [x] ↔ z ∈ before ++ [x] ++ [y] := fun z => by
        simp only [List.mem_append, or_right_comm]
      have htail : keepFirstBest rival key mark (before ++ [y] ++ [x]) l =
          keepFirstBest rival key mark (before ++ [x] ++ [y]) l := keepFirstBest_congr hmem l
      simp only [keepFirstBest, beaten_move hx, beaten_move hy, htail]
      exact List.Perm.swap _ _ _
  | trans hperm _ ih ih' =>
    refine (ih hties before).trans (ih' (fun a ha b hb => hties a ?_ b ?_) before)
    · exact hperm.mem_iff.mpr ha
    · exact hperm.mem_iff.mpr hb

/-- An element without rivals is left alone, and the others are marked as without it. -/
theorem keepFirstBest_isolated {x : α} (hx : ∀ y, ¬ rival x y ∧ ¬ rival y x)
    (before pre post : List α) :
    ∃ a b, keepFirstBest rival key mark before (pre ++ x :: post) = a ++ x :: b ∧
      keepFirstBest rival key mark before (pre ++ post) = a ++ b := by
  have hbefore : ∀ (before l : List α), keepFirstBest rival key mark (before ++ [x]) l =
      keepFirstBest rival key mark before l := by
    intro before l
    induction l generalizing before with
    | nil => rfl
    | cons y rest ih =>
      have hy : Beaten rival key (before ++ [x]) y rest ↔ Beaten rival key before y rest := by
        unfold Beaten
        simp [or_and_right, exists_or, (hx y).1]
      have hmem : ∀ z, z ∈ before ++ [x] ++ [y] ↔ z ∈ before ++ [y] ++ [x] := fun z => by
        simp only [List.mem_append, or_right_comm]
      unfold keepFirstBest
      simp only [hy]
      rw [keepFirstBest_congr hmem, ih]
  induction pre generalizing before with
  | nil =>
    have hself : ¬ Beaten rival key before x post := by
      intro h
      rcases h with ⟨y, _, hr, _⟩ | ⟨y, _, hr, _⟩
      · exact (hx y).2 hr
      · exact (hx y).2 hr
    refine ⟨[], keepFirstBest rival key mark before post, ?_, rfl⟩
    rw [List.nil_append, List.nil_append, keepFirstBest, if_neg hself, hbefore]
  | cons y pre ih =>
    obtain ⟨a, b, hwith, hwithout⟩ := ih (before ++ [y])
    have hy : Beaten rival key before y (pre ++ x :: post) ↔
      Beaten rival key before y (pre ++ post) := by
      unfold Beaten
      simp [or_and_right, exists_or, (hx y).1]
    refine ⟨(if Beaten rival key before y (pre ++ post) then mark y else y) :: a, b, ?_, ?_⟩
    · rw [List.cons_append, keepFirstBest, hwith]
      simp only [hy, List.cons_append]
    · rw [List.cons_append, keepFirstBest, hwithout, List.cons_append]

theorem mem_keepFirstBest {before l : List α} {z : α}
    (h : z ∈ keepFirstBest rival key mark before l) :
    ∃ x ∈ l, (z = mark x ∧ ∃ y, rival y x) ∨
      z = x ∧ ∀ y ∈ before, rival y x → ¬ key y ≤ key x := by
  induction l generalizing before with
  | nil => exact absurd h List.not_mem_nil
  | cons x rest ih =>
    rcases List.mem_cons.mp h with hz | hz
    · refine ⟨x, List.mem_cons_self .., ?_⟩
      by_cases hb : Beaten rival key before x rest
      · rw [if_pos hb] at hz
        refine Or.inl ⟨hz, ?_⟩
        rcases hb with ⟨y, _, hr, _⟩ | ⟨y, _, hr, _⟩
        · exact ⟨y, hr⟩
        · exact ⟨y, hr⟩
      · rw [if_neg hb] at hz
        exact Or.inr ⟨hz, fun y hy hr hle => hb (Or.inl ⟨y, hy, hr, hle⟩)⟩
    · obtain ⟨w, hw, hor⟩ := ih hz
      refine ⟨w, List.mem_cons_of_mem x hw, hor.imp_right fun ⟨hzw, hno⟩ => ⟨hzw, fun y hy => ?_⟩⟩
      exact hno y (List.mem_append_left [x] hy)

/-- What a mark does not touch stays in its place. -/
theorem map_keepFirstBest {β : Type} {f : α → β} (h : ∀ x, f (mark x) = f x) (before l : List α) :
    (keepFirstBest rival key mark before l).map f = l.map f := by
  induction l generalizing before with
  | nil => rfl
  | cons x rest ih =>
    unfold keepFirstBest
    rw [List.map_cons, List.map_cons, ih]
    by_cases hb : Beaten rival key before x rest
    · rw [if_pos hb, h]
    · rw [if_neg hb]

/-- Of the elements with a property the first of the best has no better one and no equal before
    it. -/
theorem first_best {P : α → Prop} (l : List α) {x : α} (hx : x ∈ l) (hP : P x) :
    ∃ a z b, l = a ++ z :: b ∧ P z ∧ (∀ y ∈ a, P y → key z < key y) ∧
      ∀ y ∈ b, P y → key z ≤ key y := by
  induction l generalizing x with
  | nil => exact absurd hx List.not_mem_nil
  | cons w rest ih =>
    by_cases hrest : ∃ y ∈ rest, P y
    · obtain ⟨y, hy, hPy⟩ := hrest
      obtain ⟨a, z, b, hl, hz, ha, hb⟩ := ih hy hPy
      by_cases hw : P w ∧ key w ≤ key z
      · -- `w` is first, and at least as good as the best of the rest
        refine ⟨[], w, rest, rfl, hw.1, fun y hy => absurd hy List.not_mem_nil, ?_⟩
        intro y hy hPy
        rw [hl] at hy
        rcases List.mem_append.mp hy with hy | hy
        · exact hw.2.trans (ha y hy hPy).le
        · rcases List.mem_cons.mp hy with rfl | hy
          · exact hw.2
          · exact hw.2.trans (hb y hy hPy)
      · refine ⟨w :: a, z, b, by rw [hl, List.cons_append], hz, ?_, hb⟩
        intro y hy hPy
        rcases List.mem_cons.mp hy with rfl | hy
        · exact not_le.mp fun hle => hw ⟨hPy, hle⟩
        · exact ha y hy hPy
    · have hnone : ∀ y ∈ rest, ¬ P y := fun y hy hPy => hrest ⟨y, hy, hPy⟩
      have hw : P w := by
        rcases List.mem_cons.mp hx with rfl | hx
        · exact hP
        · exact absurd hP (hnone x hx)
      exact ⟨[], w, rest, rfl, hw, fun y hy => absurd hy List.not_mem_nil,
        fun y hy hPy => absurd hPy (hnone y hy)⟩

/-- What is not beaten stays as it is. -/
theorem mem_of_not_beaten {before a b : List α} {z : α} (h : ¬ Beaten rival key (before ++ a) z b) :
    z ∈ keepFirstBest rival key mark before (a ++ z :: b) := by
  induction a generalizing before with
  | nil =>
    rw [List.append_nil] at h
    rw [List.nil_append, keepFirstBest, if_neg h]
    exact List.mem_cons_self ..
  | cons y a ih =>
    rw [List.cons_append, keepFirstBest]
    refine List.mem_cons_of_mem _ (ih ?_)
    rw [List.append_assoc]
    exact h

/-- **Of each group a best one stays**: whatever has a rival in itself is no better than a rival
    that is left alone. -/
theorem exists_kept (htrans : ∀ x y z, rival x y → rival y z → rival x z) {l : List α} {x : α}
    (hx : x ∈ l) (hself : rival x x) :
    ∃ z ∈ l, z ∈ keepFirstBest rival key mark [] l ∧ rival z x ∧ key z ≤ key x := by
  obtain ⟨a, z, b, hl, hz, ha, hb⟩ : ∃ a z b, l = a ++ z :: b ∧ rival z x ∧
      (∀ y ∈ a, rival y x → key z < key y) ∧ ∀ y ∈ b, rival y x → key z ≤ key y :=
    first_best l hx hself
  have hrival : ∀ y, rival y z → rival y x := fun y hy => htrans y z x hy hz
  have hkept : ¬ Beaten rival key ([] ++ a) z b := by
    intro hbeaten
    rcases hbeaten with ⟨y, hy, hr, hle⟩ | ⟨y, hy, hr, hlt⟩
    · exact absurd hle (not_le.mpr (ha y hy (hrival y hr)))
    · exact absurd hlt (not_lt.mpr (hb y hy (hrival y hr)))
  have hle : key z ≤ key x := by
    rw [hl] at hx
    rcases List.mem_append.mp hx with hx | hx
    · exact (ha x hx hself).le
    · rcases List.mem_cons.mp hx with rfl | hx
      · exact le_refl _
      · exact hb x hx hself
  refine ⟨z, ?_, ?_, hz, hle⟩
  · rw [hl]
    exact List.mem_append_right a (List.mem_cons_self ..)
  · rw [hl]
    exact mem_of_not_beaten hkept

/-- **One of each group stays**, where a marked element is nobody's rival. -/
theorem pairwise_keepFirstBest (hsymm : ∀ x y, rival x y → rival y x)
    (hmark : ∀ x y, ¬ rival (mark x) y) (before l : List α) :
    (keepFirstBest rival key mark before l).Pairwise fun a b => ¬ rival a b := by
  induction l generalizing before with
  | nil => exact List.Pairwise.nil
  | cons x rest ih =>
    unfold keepFirstBest
    refine List.pairwise_cons.mpr ⟨fun z hz hr => ?_, ih _⟩
    by_cases hb : Beaten rival key before x rest
    · rw [if_pos hb] at hr
      exact hmark x z hr
    · rw [if_neg hb] at hr
      obtain ⟨w, hw, hor⟩ := mem_keepFirstBest hz
      rcases hor with ⟨hzw, _⟩ | ⟨hzw, hno⟩
      · rw [hzw] at hr
        exact hmark w x (hsymm x _ hr)
      · rw [hzw] at hr
        -- `x` is not at least as good, and a better `w` would beat it
        have hxw := hno x (by simp) hr
        exact hb (Or.inr ⟨w, hw, hsymm x w hr, not_le.mp hxw⟩)

/-- **What stays comes before its marked copies**, where the marks can be told from the input and
    from each other. -/
theorem keepFirstBest_order {before l : List α}
    (hfresh : ∀ w ∈ l, ∀ x ∈ l, rival x x → w ≠ mark x)
    (hinj : ∀ w ∈ l, ∀ x ∈ l, (∃ y, rival y w) → rival x x → mark w = mark x → w = x)
    (hmark : ∀ x y, ¬ rival (mark x) y) :
    (keepFirstBest rival key mark before l).Pairwise fun a b => rival b b → a ≠ mark b := by
  induction l generalizing before with
  | nil => exact List.Pairwise.nil
  | cons x rest ih =>
    unfold keepFirstBest
    refine List.pairwise_cons.mpr ⟨fun z hz hr heq => ?_, ih ?_ ?_⟩
    · obtain ⟨w, hw, hor⟩ := mem_keepFirstBest hz
      rcases hor with ⟨hzw, _⟩ | ⟨hzw, hno⟩
      · exact hmark w _ (hzw ▸ hr)
      · rw [hzw] at hr heq
        have hxl : x ∈ x :: rest := List.mem_cons_self ..
        have hwl : w ∈ x :: rest := List.mem_cons_of_mem x hw
        by_cases hb : Beaten rival key before x rest
        · rw [if_pos hb] at heq
          have hrival : ∃ y, rival y x := by
            rcases hb with ⟨y, _, hy, _⟩ | ⟨y, _, hy, _⟩
            · exact ⟨y, hy⟩
            · exact ⟨y, hy⟩
          have hxw : x = w := hinj x hxl w hwl hrival hr heq
          -- a copy of `w` before it beats it
          exact hno x (by simp) (hxw ▸ hr) (le_of_eq (congrArg key hxw))
        · rw [if_neg hb] at heq
          exact hfresh x hxl w hwl hr heq
    · exact fun w hw y hy => hfresh w (List.mem_cons_of_mem x hw) y (List.mem_cons_of_mem x hy)
    · exact fun w hw y hy => hinj w (List.mem_cons_of_mem x hw) y (List.mem_cons_of_mem x hy)

end FirstBest

end AlphaForge.Lib
