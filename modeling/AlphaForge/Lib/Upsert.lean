/-
  File:      AlphaForge/Lib/Upsert.lean
  Subject:   Tables where a write under a known name deletes the old row and appends the new one,
             and the earliest row of each key. No program fact.

  * `upsert`, `upsertAll` -- one write, and the table after a history of writes.
  * `earliest` -- the first row of a key; `leaders` -- the rows that are first of their keys.
  * **`firstKept_iff`** -- the earliest row of every key is that of the name which wrote the key
    first, in every state of a history, exactly where every write is `Careful`.
  * **`count_upsert_iff`** -- writing a row again keeps the number of leaders of a kind exactly
    where the row is no leader or the row that takes its place is of the same kind.
-/
import Mathlib.Data.List.Basic
import Mathlib.Data.List.Dedup
import Mathlib.Data.List.Induction

namespace AlphaForge.Lib

section Upsert

variable {α ι κ : Type} [DecidableEq ι] [DecidableEq κ] (name : α → ι) (key : α → Option κ)

/-! ## 1. Writes and earliest rows -/

/-- The rows under other names. -/
def without (i : ι) (l : List α) : List α := l.filter fun a => name a ≠ i

/-- A row of the same name is deleted, the new one is appended. -/
def upsert (l : List α) (o : α) : List α := without name (name o) l ++ [o]

/-- The table after a history of writes. -/
def upsertAll (calls : List α) : List α := calls.foldl (upsert name) []

/-- The first row of a key. -/
def earliest (k : κ) (l : List α) : Option α := l.find? fun a => key a = some k

variable {name key} {l calls done : List α} {o e a : α} {i : ι} {k : κ}

theorem mem_without : a ∈ without name i l ↔ a ∈ l ∧ name a ≠ i := by
  unfold without
  rw [List.mem_filter, decide_eq_true_iff]

theorem mem_upsert : a ∈ upsert name l o ↔ (a ∈ l ∧ name a ≠ name o) ∨ a = o := by
  unfold upsert
  rw [List.mem_append, mem_without, List.mem_singleton]

theorem upsertAll_concat (calls : List α) (o : α) :
    upsertAll name (calls ++ [o]) = upsert name (upsertAll name calls) o := by
  unfold upsertAll
  rw [List.foldl_append, List.foldl_cons, List.foldl_nil]

/-- Every row was written. -/
theorem mem_of_mem_upsertAll (h : a ∈ upsertAll name calls) : a ∈ calls := by
  induction calls using List.reverseRecOn with
  | nil => cases h
  | append_singleton done o ih =>
    rw [upsertAll_concat, mem_upsert] at h
    rcases h with ⟨hmem, _⟩ | heq
    · exact List.mem_append_left _ (ih hmem)
    · rw [heq]
      exact List.mem_append_right _ (List.mem_singleton_self o)

/-- Of every name that was written there is a row. -/
theorem exists_upsertAll (h : a ∈ calls) : ∃ b ∈ upsertAll name calls, name b = name a := by
  induction calls using List.reverseRecOn with
  | nil => cases h
  | append_singleton done o ih =>
    rw [upsertAll_concat]
    have hlast : o ∈ upsert name (upsertAll name done) o := mem_upsert.mpr (Or.inr rfl)
    rcases List.mem_append.mp h with h | h
    · obtain ⟨b, hb, hname⟩ := ih h
      by_cases hsame : name b = name o
      · exact ⟨o, hlast, hsame.symm.trans hname⟩
      · exact ⟨b, mem_upsert.mpr (Or.inl ⟨hb, hsame⟩), hname⟩
    · rw [List.mem_singleton.mp h]
      exact ⟨o, hlast, rfl⟩

/-- A table has no more rows of a kind than were written. -/
theorem countP_upsertAll_le (q : α → Bool) (calls : List α) :
    (upsertAll name calls).countP q ≤ calls.countP q := by
  induction calls using List.reverseRecOn with
  | nil => exact Nat.le_refl _
  | append_singleton done o ih =>
    have hkept : (without name (name o) (upsertAll name done)).countP q ≤
        (upsertAll name done).countP q :=
      (List.filter_sublist).countP_le
    rw [upsertAll_concat]
    unfold upsert
    rw [List.countP_append, List.countP_append]
    omega

/-- No name occurs twice. -/
theorem nodup_upsert (h : (l.map name).Nodup) : ((upsert name l o).map name).Nodup := by
  unfold upsert
  rw [List.map_append, List.map_singleton]
  refine List.nodup_append.mpr ⟨(List.filter_sublist.map name).nodup h, List.nodup_singleton _, ?_⟩
  intro i hi j hj hij
  obtain ⟨a, ha, hai⟩ := List.mem_map.mp hi
  exact (mem_without.mp ha).2 (by rw [hai, hij, List.mem_singleton.mp hj])

theorem nodup_upsertAll (calls : List α) : ((upsertAll name calls).map name).Nodup := by
  induction calls using List.reverseRecOn with
  | nil => exact List.nodup_nil
  | append_singleton done o ih =>
    rw [upsertAll_concat]
    exact nodup_upsert ih

omit [DecidableEq ι] in
theorem eq_of_name (h : (l.map name).Nodup) (ha : a ∈ l) (he : e ∈ l) (hname : name a = name e) :
    a = e := List.inj_on_of_nodup_map h ha he hname

theorem earliest_mem (h : earliest key k l = some a) : a ∈ l := List.mem_of_find?_eq_some h

theorem earliest_key (h : earliest key k l = some a) : key a = some k := by
  have hfound := List.find?_some h
  exact of_decide_eq_true hfound

theorem earliest_isSome (ha : a ∈ l) (hkey : key a = some k) : ∃ b, earliest key k l = some b := by
  have hsome : (earliest key k l).isSome = true :=
    List.find?_isSome.mpr ⟨a, ha, decide_eq_true hkey⟩
  exact Option.isSome_iff_exists.mp hsome

theorem earliest_none : earliest key k l = none ↔ ∀ b ∈ l, key b ≠ some k := by
  unfold earliest
  rw [List.find?_eq_none]
  simp only [decide_eq_true_eq, ne_eq]

/-- A row of a key that is written last is the first one only where there is no other. -/
theorem earliest_concat (l : List α) (o : α) (k : κ) : earliest key k (l ++ [o]) =
    (earliest key k l).or (if key o = some k then some o else none) := by
  unfold earliest
  rw [List.find?_append, List.find?_singleton]
  simp only [decide_eq_true_eq]

/-- A first row under another name stays the first. -/
theorem earliest_without (h : earliest key k l = some a) (hname : name a ≠ i) :
    earliest key k (without name i l) = some a := by
  induction l with
  | nil => cases h
  | cons b rest ih =>
    unfold earliest at h ih ⊢
    unfold without
    by_cases hb : key b = some k
    · rw [List.find?_cons_of_pos (by simpa using hb)] at h
      cases h
      rw [List.filter_cons_of_pos (by simpa using hname),
        List.find?_cons_of_pos (by simpa using hb)]
    · rw [List.find?_cons_of_neg (by simpa using hb)] at h
      have hrest : List.find? (fun a => decide (key a = some k))
          (rest.filter fun a => decide (name a ≠ i)) = some a := ih h
      by_cases hi : name b = i
      · rwa [List.filter_cons_of_neg (by simpa using hi)]
      · rwa [List.filter_cons_of_pos (by simpa using hi),
          List.find?_cons_of_neg (by simpa using hb)]

/-! ## 2. Who wrote a key first -/

variable (name key) in
/-- The earliest row of every key is of the name that wrote the key first. -/
def FirstKept (done : List α) : Prop :=
  ∀ k a, earliest key k (upsertAll name done) = some a →
    ∃ c, earliest key k done = some c ∧ name c = name a

variable (name key) in
/-- A write leaves the earliest row of a key alone while there are others of the key, and takes up
    a key again that has no row left only under the name that wrote it first. -/
def Careful (done : List α) (o : α) : Prop :=
  (∀ k e, earliest key k (upsertAll name done) = some e → name e = name o →
    ∀ a ∈ upsertAll name done, key a = some k → a = e) ∧
  ∀ k, key o = some k → (∀ a ∈ upsertAll name done, name a ≠ name o → key a ≠ some k) →
    ∀ c, earliest key k done = some c → name c = name o

theorem firstKept_step (h : FirstKept name key done) :
    FirstKept name key (done ++ [o]) ↔ Careful name key done o := by
  have hnodup : ((upsertAll name done).map name).Nodup := nodup_upsertAll done
  unfold FirstKept
  rw [upsertAll_concat]
  unfold upsert
  constructor
  · intro hnext
    refine ⟨fun k e he hname a ha hkey => ?_, fun k hkey hgone c hc => ?_⟩
    · -- another row of the key would take the place of the one rewritten
      by_contra hne
      have hother : name a ≠ name o := fun heq =>
        hne (eq_of_name hnodup ha (earliest_mem he) (heq.trans hname.symm))
      obtain ⟨b, hb⟩ := earliest_isSome (mem_without.mpr ⟨ha, hother⟩) hkey
      have hbname : name b ≠ name o := (mem_without.mp (earliest_mem hb)).2
      obtain ⟨c, hc, hcname⟩ := h k e he
      obtain ⟨c', hc', hcname'⟩ := hnext k b (by rw [earliest_concat, hb, Option.some_or])
      rw [earliest_concat, hc, Option.some_or] at hc'
      cases hc'
      exact hbname (hcname'.symm.trans (hcname.trans hname))
    · have hnone : earliest key k (without name (name o) (upsertAll name done)) = none :=
        earliest_none.mpr fun a ha => hgone a (mem_without.mp ha).1 (mem_without.mp ha).2
      obtain ⟨c', hc', hcname'⟩ := hnext k o (by
        rw [earliest_concat, hnone, if_pos hkey, Option.none_or])
      rw [earliest_concat, hc, Option.some_or] at hc'
      cases hc'
      exact hcname'
  · intro ⟨halone, hagain⟩ k a ha
    rw [earliest_concat] at ha ⊢
    cases hrest : earliest key k (without name (name o) (upsertAll name done)) with
    | some b =>
      rw [hrest, Option.some_or] at ha
      cases ha
      obtain ⟨hmem, hname⟩ := mem_without.mp (earliest_mem hrest)
      obtain ⟨e, he⟩ := earliest_isSome hmem (earliest_key hrest)
      by_cases hename : name e = name o
      · rw [halone k e he hename a hmem (earliest_key hrest)] at hname
        exact absurd hename hname
      · rw [earliest_without he hename] at hrest
        cases hrest
        obtain ⟨c, hc, hcname⟩ := h k a he
        exact ⟨c, by rw [hc, Option.some_or], hcname⟩
    | none =>
      rw [hrest, Option.none_or] at ha
      by_cases hkey : key o = some k
      · rw [if_pos hkey] at ha ⊢
        cases ha
        have hgone : ∀ b ∈ upsertAll name done, name b ≠ name o → key b ≠ some k :=
          fun b hb hname => earliest_none.mp hrest b (mem_without.mpr ⟨hb, hname⟩)
        cases hc : earliest key k done with
        | none => exact ⟨o, by rw [Option.none_or], rfl⟩
        | some c => exact ⟨c, by rw [Option.some_or], hagain k hkey hgone c hc⟩
      · rw [if_neg hkey] at ha
        cases ha

/-- **The first writer of every key keeps it in every state of a history exactly where every write
    is careful.** A history is one of calls, each of which writes the row `f`. -/
theorem firstKept_iff {β : Type} (f : β → α) (calls : List β) :
    (∀ done, done <+: calls → FirstKept name key (done.map f)) ↔
      ∀ done c, done ++ [c] <+: calls → Careful name key (done.map f) (f c) := by
  have hstep : ∀ done c, FirstKept name key (done.map f) →
      (FirstKept name key ((done ++ [c]).map f) ↔ Careful name key (done.map f) (f c)) := by
    intro done c h
    rw [List.map_append, List.map_singleton]
    exact firstKept_step h
  constructor
  · intro h done c hprefix
    exact (hstep done c (h done ((List.prefix_append done [c]).trans hprefix))).mp
      (h (done ++ [c]) hprefix)
  · intro h done hprefix
    induction done using List.reverseRecOn with
    | nil => exact fun k a ha => nomatch ha
    | append_singleton done c ih =>
      exact (hstep done c (ih ((List.prefix_append done [c]).trans hprefix))).mpr
        (h done c hprefix)

/-! ## 3. Counting the leaders -/

variable (name key) in
/-- The row is the earliest of its key. -/
def leads (l : List α) (a : α) : Bool :=
  (key a).any fun k => (earliest key k l).any fun b => name b = name a

variable (name key) in
/-- The rows that are the earliest of their keys. -/
def leaders (l : List α) : List α := l.filter (leads name key l)

theorem mem_leaders (h : (l.map name).Nodup) :
    a ∈ leaders name key l ↔ ∃ k, earliest key k l = some a := by
  unfold leaders leads
  rw [List.mem_filter, Option.any_eq_true]
  constructor
  · intro ⟨ha, k, _, hany⟩
    obtain ⟨b, hb, hname⟩ := (Option.any_eq_true _ _).mp hany
    refine ⟨k, ?_⟩
    rw [hb, eq_of_name h (earliest_mem hb) ha (of_decide_eq_true hname)]
  · intro ⟨k, ha⟩
    exact ⟨earliest_mem ha, k, earliest_key ha,
      (Option.any_eq_true _ _).mpr ⟨a, ha, decide_eq_true rfl⟩⟩

/-- A key has one leader. -/
theorem nodup_leaders (h : (l.map name).Nodup) (q : α → Bool) :
    (((leaders name key l).filter q).map key).Nodup := by
  refine List.Nodup.map_on (fun a ha b hb hkey => ?_) ?_
  · obtain ⟨k, hk⟩ := (mem_leaders h).mp (List.mem_of_mem_filter ha)
    obtain ⟨k', hk'⟩ := (mem_leaders h).mp (List.mem_of_mem_filter hb)
    rw [earliest_key hk, earliest_key hk'] at hkey
    cases hkey
    rw [hk] at hk'
    cases hk'
    rfl
  · exact ((h.of_map name).filter _).filter q

theorem mem_leader_keys (h : (l.map name).Nodup) {q : α → Bool} :
    some k ∈ ((leaders name key l).filter q).map key ↔
      ∃ a, earliest key k l = some a ∧ q a = true := by
  rw [List.mem_map]
  constructor
  · intro ⟨a, ha, hkey⟩
    obtain ⟨hlead, hq⟩ := List.mem_filter.mp ha
    obtain ⟨k', hk'⟩ := (mem_leaders h).mp hlead
    rw [earliest_key hk'] at hkey
    cases hkey
    exact ⟨a, hk', hq⟩
  · intro ⟨a, ha, hq⟩
    exact ⟨a, List.mem_filter.mpr ⟨(mem_leaders h).mpr ⟨k, ha⟩, hq⟩, earliest_key ha⟩

theorem leader_key_isSome (h : (l.map name).Nodup) {q : α → Bool} :
    none ∉ ((leaders name key l).filter q).map key := by
  rw [List.mem_map]
  intro ⟨a, ha, hkey⟩
  obtain ⟨k, hk⟩ := (mem_leaders h).mp (List.mem_of_mem_filter ha)
  rw [earliest_key hk] at hkey
  cases hkey

omit [DecidableEq ι] in
/-- Two lists without repetition that differ at one value at most are of one length exactly where
    they agree on it. -/
theorem length_eq_iff {xs ys : List ι} (hxs : xs.Nodup) (hys : ys.Nodup) {x : ι}
    (h : ∀ y, y ≠ x → (y ∈ xs ↔ y ∈ ys)) : xs.length = ys.length ↔ (x ∈ xs ↔ x ∈ ys) := by
  have hlonger : ∀ {xs ys : List ι}, xs.Nodup → ys.Nodup → (∀ y, y ≠ x → (y ∈ xs ↔ y ∈ ys)) →
      x ∈ xs → x ∉ ys → xs.length = ys.length + 1 := by
    intro xs ys hxs hys h hx hy
    have hperm : xs.Perm (x :: ys) := by
      rw [List.perm_ext_iff_of_nodup hxs (List.nodup_cons.mpr ⟨hy, hys⟩)]
      intro y
      rw [List.mem_cons]
      by_cases hyx : y = x
      · exact iff_of_true (hyx ▸ hx) (Or.inl hyx)
      · rw [h y hyx, or_iff_right hyx]
    exact hperm.length_eq
  by_cases hx : x ∈ xs <;> by_cases hy : x ∈ ys
  · refine iff_of_true ?_ (iff_of_true hx hy)
    refine ((List.perm_ext_iff_of_nodup hxs hys).mpr fun y => ?_).length_eq
    by_cases hyx : y = x
    · rw [hyx]
      exact iff_of_true hx hy
    · exact h y hyx
  · refine iff_of_false ?_ fun hiff => hy (hiff.mp hx)
    have := hlonger hxs hys h hx hy
    omega
  · refine iff_of_false ?_ fun hiff => hx (hiff.mpr hy)
    have := hlonger hys hxs (fun y hyx => (h y hyx).symm) hy hx
    omega
  · refine iff_of_true ?_ (iff_of_false hx hy)
    refine ((List.perm_ext_iff_of_nodup hxs hys).mpr fun y => ?_).length_eq
    by_cases hyx : y = x
    · rw [hyx]
      exact iff_of_false hx hy
    · exact h y hyx

/-- The first row of a key after a row is written again under its name and key. -/
theorem earliest_upsert (h : (l.map name).Nodup) (he : e ∈ l) (hname : name o = name e)
    (hkey : key o = key e) (k : κ) :
    earliest key k (upsert name l o) = earliest key k l ∨
      earliest key k l = some e ∧
        earliest key k (upsert name l o) =
          (earliest key k (without name (name e) l)).or (some o) := by
  unfold upsert
  rw [earliest_concat, hname, hkey]
  cases hfirst : earliest key k l with
  | none =>
    have hnone : earliest key k (without name (name e) l) = none :=
      earliest_none.mpr fun b hb => earliest_none.mp hfirst b (mem_without.mp hb).1
    rw [hnone, Option.none_or, if_neg (earliest_none.mp hfirst e he)]
    exact Or.inl rfl
  | some a =>
    by_cases ha : name a = name e
    · have hae := eq_of_name h (earliest_mem hfirst) he ha
      rw [hae] at hfirst ⊢
      rw [if_pos (earliest_key hfirst)]
      exact Or.inr ⟨rfl, rfl⟩
    · rw [earliest_without hfirst ha, Option.some_or]
      exact Or.inl rfl

/-- **Writing a row again keeps the number of leaders of a kind exactly where the row that takes its
    place, if there is one, is of the same kind.** -/
theorem count_upsert_iff (h : (l.map name).Nodup) (he : e ∈ l) (hname : name o = name e)
    (hkey : key o = key e) {q : α → Bool} (hq : q o = q e) :
    ((leaders name key (upsert name l o)).filter q).length =
        ((leaders name key l).filter q).length ↔
      ∀ k, earliest key k l = some e →
        ∀ y, earliest key k (without name (name e) l) = some y → q y = q e := by
  have h' : ((upsert name l o).map name).Nodup := nodup_upsert h
  have hlength : ∀ m : List α, m.length = (m.map key).length := fun m =>
    (List.length_map key).symm
  rw [hlength, hlength ((leaders name key l).filter q)]
  have hother : ∀ k, key e ≠ some k → (some k ∈
    ((leaders name key (upsert name l o)).filter q).map key
      ↔ some k ∈ ((leaders name key l).filter q).map key) := by
    intro k hk
    rw [mem_leader_keys h', mem_leader_keys h]
    rcases earliest_upsert h he hname hkey k with heq | ⟨hfirst, _⟩
    · rw [heq]
    · exact absurd (earliest_key hfirst) hk
  rw [length_eq_iff (nodup_leaders h' q) (nodup_leaders h q) (x := key e) fun x hx => by
    cases x with
    | none => exact iff_of_false (leader_key_isSome h') (leader_key_isSome h)
    | some k => exact hother k (Ne.symm hx)]
  cases hk : key e with
  | none =>
    refine iff_of_true (iff_of_false (leader_key_isSome h') (leader_key_isSome h))
      fun k hfirst => ?_
    rw [earliest_key hfirst] at hk
    cases hk
  | some k =>
    rw [mem_leader_keys h', mem_leader_keys h]
    have hsame : ∀ k', earliest key k' l = some e → k' = k := fun k' hfirst => by
      rw [earliest_key hfirst] at hk
      exact Option.some.inj hk
    rcases earliest_upsert h he hname hkey k with heq | ⟨hfirst, hnext⟩
    · rw [heq]
      refine iff_of_true Iff.rfl fun k' hfirst y hy => ?_
      have hk' := hsame k' hfirst
      rw [hk'] at hfirst hy
      -- a leader with a successor would have lost its place
      have hlost : earliest key k (upsert name l o) = some y := by
        unfold upsert
        rw [earliest_concat, hname, hy, Option.some_or]
      rw [heq, hfirst] at hlost
      exact absurd (congrArg name (Option.some.inj hlost)).symm (mem_without.mp (earliest_mem hy)).2
    · rw [hnext, hfirst]
      cases hy : earliest key k (without name (name e) l) with
      | none =>
        rw [Option.none_or]
        simp only [Option.some.injEq, exists_eq_left', hq, true_iff]
        intro k' hfirst' y hy'
        rw [hsame k' hfirst', hy] at hy'
        cases hy'
      | some y =>
        rw [Option.some_or]
        simp only [Option.some.injEq, exists_eq_left', Bool.coe_iff_coe]
        refine ⟨fun heq k' hfirst' y' hy' => ?_, fun hall => hall k hfirst y hy⟩
        rw [hsame k' hfirst', hy] at hy'
        cases hy'
        exact heq

end Upsert

end AlphaForge.Lib
