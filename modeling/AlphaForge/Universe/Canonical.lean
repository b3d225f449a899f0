/-
  File:      AlphaForge/Universe/Canonical.lean
  Subject:   `symbol_selector.py`: what the order of the candidates leaves of itself in the
             universe.

  The winner of a duplicate and the order of the decisions are sorted by symbol, state, source and
  the hash of the observed inputs. The availability of the evidence and the reasons are not among
  them: two candidates that read the same stand in the order they came in.

  * `Clash` -- two judgements that differ and that nothing puts in an order.
  * **`order_irrelevant_iff`** -- the universe forgets the order of its candidates exactly where no
    two of them clash.

  Numbers are exact here, so that nothing overflows on the way to the hash.
-/
import AlphaForge.Universe.Selection

namespace AlphaForge.Universe

open AlphaForge.Lib

/-! ## 1. Judgements without an order -/

section Clash

variable {F : Type} [FloatNum F] (host : Host F) (c : UniverseConstraints F) (ts : F)

/-- Unranked decisions of such states can meet: an eligible row is demoted to INELIGIBLE. -/
def Meet (s t : EvidenceState) : Prop :=
  s = t ∨ (s = .eligible ∧ t = .ineligible) ∨ (s = .ineligible ∧ t = .eligible)

/-- Two judgements that differ and that nothing puts in an order. -/
structure Clash (a b : Row F) : Prop where
  differ : a ≠ b
  symbol : a.symbol = b.symbol
  states : Meet a.state b.state
  source : sourceOf host a.inputs "" = sourceOf host b.inputs ""
  hash : host.digest (.mapping a.inputs) = host.digest (.mapping b.inputs)

/-- Two candidates with such judgements, whose inputs JSON accepts. -/
def Clashing (a b : Payload F) : Prop :=
  ∃ r q, baseDecision host c ts a = .ok r ∧ baseDecision host c ts b = .ok q ∧
    finiteEntries r.inputs = true ∧ finiteEntries q.inputs = true ∧ Clash host r q

theorem meet_symm {s t : EvidenceState} (h : Meet s t) : Meet t s := by
  rcases h with h | h | h
  · exact Or.inl h.symm
  · exact Or.inr (Or.inr ⟨h.2, h.1⟩)
  · exact Or.inr (Or.inl ⟨h.2, h.1⟩)

theorem clash_symm {a b : Row F} (h : Clash host a b) : Clash host b a :=
  ⟨h.differ.symm, h.symbol.symm, meet_symm h.states, h.source.symm, h.hash.symm⟩

end Clash

/-! ## 2. What JSON accepts -/

section Finite

variable {F : Type} [FloatNum F] {host : Host F} {c : UniverseConstraints F} {ts : F}
variable {items : List (Payload F)} {rows : List (Row F)}

/-- The check of the hashes. -/
theorem hashInputs_eq (decisions : List (Decision F)) :
    hashInputs host decisions = if ∀ d ∈ decisions,
      finiteEntries d.observedInputs = true then .ok ()
      else .error (.valueError "Out of range float values are not JSON compliant") := by
  induction decisions with
  | nil => rfl
  | cons d rest ih =>
    have hstep : hashInputs host (d :: rest) =
        ((canonicalHash host (.mapping d.observedInputs)).map fun _ => ()) >>= fun _ =>
          hashInputs host rest := rfl
    have hall : (∀ e ∈ d :: rest, finiteEntries e.observedInputs = true) ↔
        finiteEntries d.observedInputs = true ∧ ∀ e ∈ rest, finiteEntries e.observedInputs = true :=
      List.forall_mem_cons
    rw [hstep, ih]
    unfold canonicalHash
    rw [Value.finite]
    by_cases hd : finiteEntries d.observedInputs = true
    · rw [if_pos hd]
      by_cases hrest : ∀ e ∈ rest, finiteEntries e.observedInputs = true
      · rw [if_pos hrest, if_pos (hall.mpr ⟨hd, hrest⟩)]
        rfl
      · rw [if_neg hrest, if_neg fun h => hrest (hall.mp h).2]
        rfl
    · rw [if_neg hd, if_neg fun h => hd (hall.mp h).1]
      rfl

/-- The decisions have the inputs of the rows. -/
theorem finite_decisions :
    (∀ d ∈ decisionsOf host c rows, finiteEntries d.observedInputs = true) ↔
      ∀ r ∈ rows, finiteEntries r.inputs = true := by
  have hmap := congrArg (List.map Prod.snd) (map_normalized (c := c) host rows)
  rw [List.map_map, List.map_map] at hmap
  have hiff : (∀ i ∈ (cutVolume c (dedupe host rows)).map (Prod.snd ∘ fun r =>
    (r.symbol, r.inputs)),
      finiteEntries i = true) ↔ ∀ i ∈ rows.map (Prod.snd ∘ fun r => (r.symbol, r.inputs)),
      finiteEntries i = true := by rw [hmap]
  rw [List.forall_mem_map, List.forall_mem_map] at hiff
  unfold decisionsOf
  rw [List.forall_mem_map]
  exact hiff

theorem finite_number {inputs : Payload F} (h : finiteEntries inputs = true) {key : String}
    {x : F} (hx : numberAt inputs key = some x) : FloatNum.isFinite x = true := by
  have hget : inputs.get key = .float x := by
    unfold numberAt at hx
    cases hv : inputs.get key <;> simp_all
  have hmem : (key, Value.float x) ∈ inputs := by
    unfold Payload.get Payload.getD at hget
    cases hl : inputs.lookup key with
    | none =>
      rw [hl] at hget
      cases hget
    | some v =>
      rw [hl] at hget
      have hv : v = .float x := hget
      rw [hv] at hl
      obtain ⟨l₁, l₂, hsplit, _⟩ := List.lookup_eq_some_iff.mp hl
      rw [hsplit]
      simp
  exact finiteEntries_iff.mp h _ hmem

theorem isFinite_pyMax {x y : F} (hx : FloatNum.isFinite x = true)
    (hy : FloatNum.isFinite y = true) : FloatNum.isFinite (pyMax x y) = true := by
  unfold pyMax
  split
  · exact hy
  · exact hx

theorem isFinite_pyMin {x y : F} (hx : FloatNum.isFinite x = true)
    (hy : FloatNum.isFinite y = true) : FloatNum.isFinite (pyMin x y) = true := by
  unfold pyMin
  split
  · exact hy
  · exact hx

/-- A limit raised to a positive number can be divided by. -/
theorem pos_pyMax {x y : F} (hx : FloatNum.isFinite x = true) (hy : FloatNum.ofInt 0 < y)
    (hfin : FloatNum.isFinite y = true) : FloatNum.ofInt 0 < pyMax x y := by
  unfold pyMax
  by_cases h : x < y
  · rw [if_pos h]
    exact hy
  · rw [if_neg h]
    exact FloatNum.lt_of_lt_of_le hy
      (FloatNum.le_of_not_lt (isNumber_of_finite hx) (isNumber_of_finite hfin) h)

theorem finite_optionalNumber {x : Option F} (h : ∀ y ∈ x, FloatNum.isFinite y = true) :
    (optionalNumber x).finite = true := by
  cases x with
  | none => rfl
  | some y => exact h y rfl

theorem finite_texts (texts : List String) :
    finiteItems (texts.map (Value.text : String → Value F)) = true := by
  rw [finiteItems_iff, List.forall_mem_map]
  exact fun _ _ => rfl

theorem finite_constraints : finiteEntries c.asDict = true := by
  have hcaps : ∀ x ∈ c.minMarketCapUsd.toList ++ c.maxMarketCapUsd.toList,
    FloatNum.isFinite x = true :=
    fun x hx => (c.caps x hx).1
  have hlow : ∀ x ∈ c.minMarketCapUsd, FloatNum.isFinite x = true := fun x hx =>
    hcaps x (List.mem_append_left _ (Option.mem_toList.mpr hx))
  have hhigh : ∀ x ∈ c.maxMarketCapUsd, FloatNum.isFinite x = true := fun x hx =>
    hcaps x (List.mem_append_right _ (Option.mem_toList.mpr hx))
  have hnumbers := fun x hx => (c.numbers x hx).1
  simp only [List.forall_mem_cons] at hnumbers
  obtain ⟨h₁, h₂, h₃, h₄, h₅, h₆, _⟩ := hnumbers
  refine finiteEntries_iff.mpr ?_
  unfold UniverseConstraints.asDict
  simp only [List.forall_mem_cons, finite_float, finite_text, finite_int, finite_list]
  exact ⟨finite_optionalNumber hlow, finite_optionalNumber hhigh, h₁, trivial, trivial,
    finite_texts _,
    h₂, h₃, h₄, h₅, h₆, trivial, List.forall_mem_nil _⟩

omit [FloatNum F] in
theorem findRank_mem {symbol : String} {n k : ℕ} {s : Scored F}
    {ranking : List (Scored F)} (h : findRank symbol n ranking = some (k, s)) : s ∈ ranking := by
  induction ranking generalizing n with
  | nil => cases h
  | cons t rest ih =>
    unfold findRank at h
    by_cases ht : t.symbol = symbol
    · rw [if_pos ht] at h
      cases h
      exact List.mem_cons_self ..
    · rw [if_neg ht] at h
      exact List.mem_cons_of_mem t (ih h)

theorem finite_decision {ranking : List (Scored F)} {z : Row F}
    (hz : finiteEntries z.inputs = true) (hranking : ∀ s ∈ ranking,
      FloatNum.isFinite s.score = true ∧ finiteEntries s.components = true) :
    finiteEntries (decisionOf c ranking z).asDict = true := by
  have hinfo : ∀ info ∈ (if z.state = .eligible then findRank z.symbol 1 ranking else none),
      FloatNum.isFinite info.2.score = true ∧ finiteEntries info.2.components = true := by
    intro ⟨k, s⟩ hs
    by_cases he : z.state = .eligible
    · rw [if_pos he] at hs
      exact hranking s (findRank_mem hs)
    · rw [if_neg he] at hs
      cases hs
  refine finiteEntries_iff.mpr ?_
  unfold Decision.asDict decisionOf
  generalize (if z.state = .eligible then findRank z.symbol 1 ranking else none) = info at hinfo
  simp only [List.forall_mem_cons, finite_text, finite_bool, finite_list, finite_mapping]
  refine ⟨trivial, trivial, finite_texts _, hz, ?_, ?_, ?_, trivial, ?_, List.forall_mem_nil _⟩
  · cases info with
    | none => rfl
    | some i => exact (hinfo i rfl).2
  · refine finite_optionalNumber fun y hy => ?_
    obtain ⟨i, hi, hiy⟩ := Option.map_eq_some_iff.mp hy
    exact hiy ▸ (hinfo i hi).1
  · cases info <;> rfl
  · rw [finiteEntries_iff, List.forall_mem_map]
    exact fun _ _ => rfl

theorem maxOf_mem {x : F} {xs : List F} : maxOf (x :: xs) ∈ x :: xs := by
  show xs.foldl pyMax x ∈ x :: xs
  induction xs generalizing x with
  | nil => exact List.mem_singleton_self x
  | cons y rest ih =>
    rw [List.foldl_cons]
    rcases List.mem_cons.mp (ih (x := pyMax x y)) with h | h
    · rw [h]
      unfold pyMax
      split
      · simp
      · simp
    · simp [h]

theorem maxOf_property {P : F → Prop} {xs : List F} (hone : P (FloatNum.ofInt 1))
    (h : ∀ x ∈ xs, P x) : P (maxOf xs) := by
  cases xs with
  | nil => exact hone
  | cons x xs => exact h _ maxOf_mem

/-- A time is finite where the division of milliseconds is. -/
theorem timestamp_finite (hdiv : ∀ x : F, FloatNum.isFinite x = true →
    FloatNum.isFinite (x / FloatNum.ofInt 1000) = true) {v : Value F}
    (h : timestampSeconds host v = some ts) :
    FloatNum.isFinite ts = true := by
  unfold timestampSeconds at h
  obtain ⟨x, _, hx⟩ := Option.bind_eq_some_iff.mp h
  by_cases hbad : FloatNum.isFinite x = false ∨ x < FloatNum.ofInt 0
  · rw [if_pos hbad] at hx
    cases hx
  have hfinite : FloatNum.isFinite x = true := by
    cases hf : FloatNum.isFinite x with
    | true => rfl
    | false => exact absurd (Or.inl hf) hbad
  rw [if_neg hbad] at hx
  by_cases hlarge : FloatNum.ofInt 10000000000 < x
  · rw [if_pos hlarge] at hx
    cases hx
    exact hdiv x hfinite
  · rw [if_neg hlarge] at hx
    cases hx
    exact hfinite

variable {request : Request F}

/-- **A universe is returned** where no candidate has inputs that JSON refuses, and neither has the
    ranking. -/
theorem build_returns_of (hts : timestampSeconds host request.decisionTimestamp = some ts)
    (h : items.mapM (baseDecision host c ts) = .ok rows)
    (hfinite : ∀ r ∈ rows, finiteEntries r.inputs = true) (htime : FloatNum.isFinite ts = true)
    (hranking : ∀ s ∈ scored host c (cutVolume c (dedupe host rows)),
      FloatNum.isFinite s.score = true ∧ finiteEntries s.components = true) :
    ∃ u, buildSelectedUniverse host c request items = .ok u := by
  have hdecisions : ∀ d ∈ decisionsOf host c rows, finiteEntries d.observedInputs = true :=
    finite_decisions.mpr hfinite
  have hdicts : ∀ d ∈ decisionsOf host c rows, finiteEntries d.asDict = true := by
    intro d hd
    obtain ⟨z, hz, hzd⟩ := List.mem_map.mp hd
    have hinputs := hdecisions d hd
    rw [← hzd] at hinputs ⊢
    exact finite_decision hinputs hranking
  have hpayload : (Value.mapping (evidencePayload c request ts
      (sortOn (decisionKey host) (decisionsOf host c rows)))).finite = true := by
    rw [finite_mapping, finiteEntries_iff]
    unfold evidencePayload
    simp only [List.forall_mem_cons, finite_float, finite_text, finite_list, finite_mapping]
    refine ⟨htime, finite_constraints, ?_, trivial, ?_, trivial, trivial,
      List.forall_mem_nil _⟩
    · rw [finiteItems_iff, List.forall_mem_map]
      exact fun d hd => hdicts d (mem_sortOn.mp hd)
    · cases request.strategyConfigHash <;> rfl
  have hconfig : (Value.mapping c.asDict).finite = true := finite_constraints
  have huniverse : ∀ (symbols : List String) (hash : String), (Value.mapping
      [("symbols", .list (symbols.map .text)), ("evidence_hash", .text hash)] : Value F).finite =
      true := by
    intro symbols hash
    rw [finite_mapping, finiteEntries_iff]
    simp only [List.forall_mem_cons, finite_list, finite_text]
    exact ⟨finite_texts _, trivial, List.forall_mem_nil _⟩
  unfold buildSelectedUniverse
  simp only [hts]
  rw [h]
  show ∃ u, (hashInputs host (decisionsOf host c rows) >>= fun _ =>
    sealUniverse host c request ts
      (sortOn (decisionKey host) (decisionsOf host c rows))) = .ok u
  rw [hashInputs_eq, if_pos hdecisions, ok_bind]
  unfold sealUniverse UniverseConstraints.configHash
  simp only [canonicalHash_ok _ hpayload, canonicalHash_ok _ hconfig,
    canonicalHash_ok _ (huniverse _ _), ok_bind]
  exact ⟨_, rfl⟩

end Finite

/-! ## 3. Exact numbers -/

theorem order_injective {x y : Extended} (h : order x = order y) : x = y := by
  unfold order at h
  cases x <;> cases y <;> simp_all [FloatNum.value, Extended.value]

theorem order_pyMax {F : Type} [FloatNum F] {x y : F} (hx : IsNumber x) :
    order (pyMax x y) = max (order x) (order y) := by
  unfold pyMax
  by_cases h : x < y
  · rw [if_pos h, max_eq_right ((order_lt_iff hx).mpr h).le]
  · rw [if_neg h, max_eq_left (not_lt.mp fun hlt => h ((order_lt_iff hx).mp hlt))]

theorem number_pyMax {F : Type} [FloatNum F] {x y : F} (hx : IsNumber x) (hy : IsNumber y) :
    IsNumber (pyMax x y) := by
  unfold pyMax
  split
  · exact hy
  · exact hx

/-- The largest of some numbers, whatever their order. -/
theorem order_maxOf {F : Type} [FloatNum F] {x : F} {xs : List F} (h : ∀ y ∈ x :: xs, IsNumber y) :
    order (maxOf (x :: xs)) = ((x :: xs).map order).foldl max ⊥ := by
  show order (xs.foldl pyMax x) = (xs.map order).foldl max (max ⊥ (order x))
  rw [max_eq_right bot_le]
  induction xs generalizing x with
  | nil => rfl
  | cons y rest ih =>
    have hx : IsNumber x := h x (by simp)
    have hy : IsNumber y := h y (by simp)
    rw [List.map_cons, List.foldl_cons, List.foldl_cons, ← order_pyMax hx]
    refine ih fun z hz => ?_
    rcases List.mem_cons.mp hz with hz | hz
    · exact hz ▸ number_pyMax hx hy
    · exact h z (by simp [hz])

theorem maxOf_perm {xs ys : List Extended} (hperm : xs.Perm ys) (h : ∀ x ∈ xs, IsNumber x) :
    maxOf xs = maxOf ys := by
  cases xs with
  | nil => rw [hperm.nil_eq]
  | cons x xs =>
    cases ys with
    | nil => exact absurd hperm.length_eq (by simp)
    | cons y ys =>
      refine order_injective ?_
      rw [order_maxOf h, order_maxOf fun z hz => h z (hperm.mem_iff.mpr hz)]
      exact (hperm.map order).foldl_eq _

/-! ## 4. The passes forget the order -/

section Sufficient

variable {host : Host Extended} {c : UniverseConstraints Extended} {ts : Extended}
variable {items items' : List (Payload Extended)} {rows rows' : List (Row Extended)}

theorem demote_injective {x y : Row Extended} (hx : x.state = .eligible) (hy : y.state = .eligible)
    {reason : String} (h : x.demote reason = y.demote reason) : x = y := by
  obtain ⟨symbol, state, reasons, inputs, availability⟩ := x
  obtain ⟨symbol', state', reasons', inputs', availability'⟩ := y
  cases hx
  cases hy
  simp only [Row.demote, Row.mk.injEq, List.append_cancel_right_eq, true_and] at h
  obtain ⟨h₁, h₂, h₃, h₄⟩ := h
  rw [h₁, h₂, h₃, h₄]

/-- Rivals that `min` cannot tell apart clash, unless they are equal. -/
theorem rivals_equal (hno : ∀ a ∈ rows, ∀ b ∈ rows, ¬ Clash host a b) {a b : Row Extended}
    (ha : a ∈ rows) (hb : b ∈ rows) (hr : Rival a b)
    (hkey : duplicateKey host a = duplicateKey host b) :
    a = b := by
  by_contra hne
  unfold duplicateKey at hkey
  simp only [toLex_inj, Prod.mk.injEq] at hkey
  exact hno a ha b hb ⟨hne, hr.2.2, Or.inl (hr.1.trans hr.2.1.symm), hkey.2.2.1, hkey.2.2.2⟩

theorem dedupe_perm (hperm : rows.Perm rows') (hno : ∀ a ∈ rows, ∀ b ∈ rows, ¬ Clash host a b) :
    (dedupe host rows).Perm (dedupe host rows') :=
  perm_keepFirstBest rival_symm hperm (fun _ ha _ hb => rivals_equal hno ha hb) []

theorem retained_perm {D D' : List (Row Extended)} (hperm : D.Perm D')
    (hnodup : ((eligibleRows D).map Row.symbol).Nodup) : retained c D = retained c D' := by
  unfold retained
  congr 1
  refine sortOn_perm_of_injective (hperm.filter _) fun a ha b hb hkey => ?_
  unfold volumeKey at hkey
  simp only [toLex_inj, Prod.mk.injEq] at hkey
  exact List.inj_on_of_nodup_map hnodup ha hb hkey.2

theorem cutVolume_perm {D D' : List (Row Extended)} (hperm : D.Perm D')
    (hnodup : ((eligibleRows D).map Row.symbol).Nodup) :
    (cutVolume c D).Perm (cutVolume c D') := by
  unfold cutVolume
  rw [retained_perm hperm hnodup]
  exact hperm.map _

theorem scored_perm {N N' : List (Row Extended)} (hperm : N.Perm N') (hn : Normal N)
    (hnumber : ∀ r ∈ eligibleRows N, IsNumber r.volume ∧ IsNumber r.volatility) :
    scored host c N = scored host c N' := by
  have heligible : (eligibleRows N).Perm (eligibleRows N') := hperm.filter _
  have hvolume : maxOf ((eligibleRows N).map Row.volume) =
    maxOf ((eligibleRows N').map Row.volume) :=
    maxOf_perm (heligible.map _) (List.forall_mem_map.mpr fun r hr => (hnumber r hr).1)
  have hvolatility : maxOf ((eligibleRows N).map Row.volatility) =
      maxOf ((eligibleRows N').map Row.volatility) :=
    maxOf_perm (heligible.map _) (List.forall_mem_map.mpr fun r hr => (hnumber r hr).2)
  unfold scored
  simp only [← hvolume, ← hvolatility]
  refine sortOn_perm_of_injective (heligible.map _) fun a ha b hb hkey => ?_
  obtain ⟨r, hr, hra⟩ := List.mem_map.mp ha
  obtain ⟨q, hq, hqb⟩ := List.mem_map.mp hb
  unfold rankKey at hkey
  simp only [toLex_inj, Prod.mk.injEq] at hkey
  have hsymbol : r.symbol = q.symbol := by
    have h := hkey.2
    rw [← hra, ← hqb] at h
    exact h
  rw [← hra, ← hqb, List.inj_on_of_nodup_map hn.nodup hr hq hsymbol]

/-- The normalized rows of two orders. -/
theorem normalized_perm (hperm : rows.Perm rows')
    (hno : ∀ a ∈ rows, ∀ b ∈ rows, ¬ Clash host a b) :
    (cutVolume c (dedupe host rows)).Perm (cutVolume c (dedupe host rows')) :=
  cutVolume_perm (dedupe_perm hperm hno) (nodup_dedupe host rows)

/-- The decisions of two orders, each in its own. -/
theorem decisions_perm (h : items.mapM (baseDecision host c ts) = .ok rows)
    (hperm : rows.Perm rows') (hno : ∀ a ∈ rows, ∀ b ∈ rows, ¬ Clash host a b) :
    (decisionsOf host c rows).Perm (decisionsOf host c rows') := by
  have hnormal := normalized_perm (c := c) hperm hno
  have hranking : scored host c (cutVolume c (dedupe host rows)) =
      scored host c (cutVolume c (dedupe host rows')) := by
    refine scored_perm hnormal (normal_rows host h) fun r hr => ?_
    obtain ⟨hmem, he⟩ := mem_eligibleRows.mp hr
    have hrow := (eligible_base host h hmem he).1
    exact ⟨isNumber_of_finite (eligible_volume host h hrow he).2.1,
      isNumber_of_finite (eligible_volatility host h hrow he).1⟩
  unfold decisionsOf
  simp only [hranking]
  exact hnormal.map _

/-- The row behind a normalized one. -/
theorem mem_base {z : Row Extended} (hz : z ∈ cutVolume c (dedupe host rows)) :
    ∃ x ∈ rows, x.symbol = z.symbol ∧ x.inputs = z.inputs ∧
      (x = z ∨ x.state = .eligible ∧ (z = x.demote "DUPLICATE_SYMBOL_LOWER_QUALITY" ∨
        z = x.demote "OUTSIDE_TOP_N_VOLUME")) := by
  rcases mem_normalized host hz with hr | ⟨x, hx, he, hzx⟩ | ⟨x, hx, he, _, _, hzx⟩
  · exact ⟨z, hr, rfl, rfl, Or.inl rfl⟩
  · exact ⟨x, hx, hzx ▸ rfl, hzx ▸ rfl, Or.inr ⟨he, Or.inl hzx⟩⟩
  · exact ⟨x, hx, hzx ▸ rfl, hzx ▸ rfl, Or.inr ⟨he, Or.inr hzx⟩⟩

/-- Decisions that the sort cannot tell apart are equal, or those of a duplicate and of the same
    candidate outside the cut. -/
theorem tie_cases (hn : Normal (cutVolume c (dedupe host rows)))
    (hno : ∀ a ∈ rows, ∀ b ∈ rows, ¬ Clash host a b) {ranking : List (Scored Extended)}
    {z w : Row Extended} (hz : z ∈ cutVolume c (dedupe host rows))
    (hw : w ∈ cutVolume c (dedupe host rows))
    (hkey : decisionKey host (decisionOf c ranking z) = decisionKey host (decisionOf c ranking w)) :
    z = w ∨ ∃ x ∈ rows, x.state = .eligible ∧
      ((z = x.demote "DUPLICATE_SYMBOL_LOWER_QUALITY" ∧ w = x.demote "OUTSIDE_TOP_N_VOLUME") ∨
        (z = x.demote "OUTSIDE_TOP_N_VOLUME" ∧ w = x.demote "DUPLICATE_SYMBOL_LOWER_QUALITY")) := by
  unfold decisionKey at hkey
  simp only [toLex_inj, Prod.mk.injEq] at hkey
  obtain ⟨_, _, hsymbol, hvalue, hsource, hhash⟩ := hkey
  have hzw : z.symbol = w.symbol := hsymbol
  have hstate : z.state = w.state := EvidenceState.value_injective hvalue
  by_cases he : z.state = .eligible
  · exact Or.inl (List.inj_on_of_nodup_map hn.nodup (mem_eligibleRows.mpr ⟨hz, he⟩)
      (mem_eligibleRows.mpr ⟨hw, hstate ▸ he⟩) hzw)
  obtain ⟨x, hx, hxs, hxi, hxor⟩ := mem_base hz
  obtain ⟨y, hy, hys, hyi, hyor⟩ := mem_base hw
  -- the rows behind them would clash
  have hequal : Meet x.state y.state → x = y := fun hmeet => by
    by_contra hne
    refine hno x hx y hy ⟨hne, hxs.trans (hzw.trans hys.symm), hmeet, ?_, ?_⟩
    · rw [hxi, hyi]
      exact hsource
    · rw [hxi, hyi]
      exact hhash
  rcases hxor with hxz | ⟨hxe, hxz⟩
  · rcases hyor with hyw | ⟨hye, hyw⟩
    · rw [← hxz, ← hyw] at hstate ⊢
      exact Or.inl (hequal (Or.inl hstate))
    · -- a row that was not eligible against a demoted one
      have hstates : x.state = .ineligible := by
        rw [hxz, hstate]
        rcases hyw with hyw | hyw
        · exact hyw ▸ rfl
        · exact hyw ▸ rfl
      have hxy := hequal (Or.inr (Or.inr ⟨hstates, hye⟩))
      rw [hxy, hye] at hstates
      cases hstates
  · rcases hyor with hyw | ⟨hye, hyw⟩
    · have hstates : y.state = .ineligible := by
        rw [hyw, ← hstate]
        rcases hxz with hxz | hxz
        · exact hxz ▸ rfl
        · exact hxz ▸ rfl
      have hxy := hequal (Or.inr (Or.inl ⟨hxe, hstates⟩))
      rw [← hxy, hxe] at hstates
      cases hstates
    · have hxy := hequal (Or.inl (hxe.trans hye.symm))
      rw [← hxy] at hyw
      rcases hxz with hxz | hxz <;> rcases hyw with hyw | hyw
      · exact Or.inl (hxz.trans hyw.symm)
      · exact Or.inr ⟨x, hx, hxe, Or.inl ⟨hxz, hyw⟩⟩
      · exact Or.inr ⟨x, hx, hxe, Or.inr ⟨hxz, hyw⟩⟩
      · exact Or.inl (hxz.trans hyw.symm)

/-- `d` is no duplicate that stands before the same candidate outside the cut. -/
def InOrder (d e : Decision Extended) : Prop :=
  ¬ (d.reasons = ["DUPLICATE_SYMBOL_LOWER_QUALITY"] ∧ e.reasons = ["OUTSIDE_TOP_N_VOLUME"])

theorem demoted_decision (h : items.mapM (baseDecision host c ts) = .ok rows) {x : Row Extended}
    (hx : x ∈ rows) (he : x.state = .eligible) (ranking : List (Scored Extended))
    (reason : String) :
    (decisionOf c ranking (x.demote reason)).reasons = [reason] := by
  rw [reasons_of_not_eligible (demote_not_eligible x reason), demote_reasons host h hx he]

/-- Of equal candidates the one that stays comes first. -/
theorem pairwise_dedupe (h : items.mapM (baseDecision host c ts) = .ok rows) :
    (dedupe host rows).Pairwise fun a b =>
      b.state = .eligible → a ≠ b.demote "DUPLICATE_SYMBOL_LOWER_QUALITY" := by
  have horder : (dedupe host rows).Pairwise fun a b =>
      Rival b b → a ≠ b.demote "DUPLICATE_SYMBOL_LOWER_QUALITY" := by
    refine keepFirstBest_order ?_ ?_ ?_
    · intro w hw x hx hr heq
      have hreasons : w.reasons = ["DUPLICATE_SYMBOL_LOWER_QUALITY"] := by
        rw [heq]
        exact demote_reasons host h hx hr.1 _
      have hknown := (rows_sound host h hw).2 "DUPLICATE_SYMBOL_LOWER_QUALITY"
        (by rw [hreasons]; simp)
      exact absurd hknown (by decide)
    · exact fun w _ x _ ⟨y, hy⟩ hr heq => demote_injective hy.2.1 hr.1 heq
    · exact fun x y hr => demote_not_eligible x _ hr.1
  exact horder.imp fun hab he => hab ⟨he, he, rfl⟩

/-- What the cut makes of two rows of the first pass, where the sort cannot tell it apart. -/
theorem pairwise_cut (h : items.mapM (baseDecision host c ts) = .ok rows)
    (hno : ∀ a ∈ rows, ∀ b ∈ rows, ¬ Clash host a b) (ranking : List (Scored Extended)) :
    (dedupe host rows).Pairwise fun a b => ∀ z w,
      z ∈ cutVolume c (dedupe host rows) → w ∈ cutVolume c (dedupe host rows) →
      (z = a ∨ z = a.demote "OUTSIDE_TOP_N_VOLUME") →
      (w = b ∨ b.state = .eligible ∧ w = b.demote "OUTSIDE_TOP_N_VOLUME") →
      decisionKey host (decisionOf c ranking z) = decisionKey host (decisionOf c ranking w) →
      InOrder (decisionOf c ranking z) (decisionOf c ranking w) := by
  refine (pairwise_dedupe h).imp_of_mem fun {a b} ha hb hab z w hz hw hza hwb hkey ⟨hdup,
    hout⟩ => ?_
  rcases tie_cases (normal_rows host h) hno hz hw hkey with heq | ⟨x, hx, hxe, hxor⟩
  · rw [heq, hout] at hdup
    exact absurd hdup (by decide)
  rcases hxor with ⟨hzx, hwx⟩ | ⟨hzx, _⟩
  · -- `x` stays as `b`, and its duplicate comes earlier as `a`
    have hb' : b = x ∧ b.state = .eligible := by
      rcases hwb with hwb | ⟨hbe, hwb⟩
      · have hreasons : b.reasons = ["OUTSIDE_TOP_N_VOLUME"] := by
          rw [← hwb, hwx]
          exact demote_reasons host h hx hxe _
        rcases mem_dedupe host hb with hbr | ⟨y, hy, hye, hby⟩
        · have hknown := (rows_sound host h hbr).2 "OUTSIDE_TOP_N_VOLUME" (by rw [hreasons]; simp)
          exact absurd hknown (by decide)
        · rw [hby, demote_reasons host h hy hye] at hreasons
          exact absurd hreasons (by decide)
      · exact ⟨demote_injective hbe hxe (hwb.symm.trans hwx), hbe⟩
    have ha' : a = x.demote "DUPLICATE_SYMBOL_LOWER_QUALITY" := by
      rcases hza with hza | hza
      · exact hza.symm.trans hzx
      · have hlast := congrArg (fun r : Row Extended => r.reasons.getLast?) (hza.symm.trans hzx)
        simp [Row.demote] at hlast
    exact hab hb'.2 (hb'.1 ▸ ha')
  · rw [hzx, demoted_decision h hx hxe] at hdup
    exact absurd hdup (by decide)

/-- Decisions that the sort cannot tell apart come in one order. -/
theorem pairwise_decisions (h : items.mapM (baseDecision host c ts) = .ok rows)
    (hno : ∀ a ∈ rows, ∀ b ∈ rows, ¬ Clash host a b) :
    (decisionsOf host c rows).Pairwise fun d e => decisionKey host d = decisionKey host e →
      InOrder d e := by
  have hpair := pairwise_cut h hno (scored host c (cutVolume c (dedupe host rows)))
  unfold decisionsOf
  refine List.pairwise_map.mpr (List.pairwise_map.mpr ?_)
  refine hpair.imp_of_mem fun {a b} ha hb hab hkey => ?_
  refine hab _ _ (List.mem_map_of_mem ha) (List.mem_map_of_mem hb) ?_ ?_ hkey
  · split
    · exact Or.inr rfl
    · exact Or.inl rfl
  · split
    · rename_i hcut
      exact Or.inr ⟨hcut.1, rfl⟩
    · exact Or.inl rfl

/-- **The sorted decisions forget the order**, where no two judgements clash. -/
theorem sorted_decisions_perm (h : items.mapM (baseDecision host c ts) = .ok rows)
    (h' : items'.mapM (baseDecision host c ts) = .ok rows') (hperm : rows.Perm rows')
    (hno : ∀ a ∈ rows, ∀ b ∈ rows, ¬ Clash host a b) :
    sortOn (decisionKey host) (decisionsOf host c rows) =
      sortOn (decisionKey host) (decisionsOf host c rows') := by
  have hno' : ∀ a ∈ rows', ∀ b ∈ rows', ¬ Clash host a b := fun a ha b hb =>
    hno a (hperm.mem_iff.mpr ha) b (hperm.mem_iff.mpr hb)
  refine sortOn_perm (decisions_perm h hperm hno) (pairwise_decisions h hno)
    (pairwise_decisions h' hno') fun d hd e he hkey hde hed => ?_
  obtain ⟨z, hz, hzd⟩ := List.mem_map.mp hd
  obtain ⟨w, hw, hwe⟩ := List.mem_map.mp he
  rw [← hzd, ← hwe] at hkey hde hed ⊢
  rcases tie_cases (normal_rows host h) hno hz hw hkey with heq | ⟨x, hx, hxe, hxor⟩
  · rw [heq]
  rcases hxor with ⟨hzx, hwx⟩ | ⟨hzx, hwx⟩
  · refine absurd ⟨?_, ?_⟩ hde
    · exact hzx ▸ demoted_decision h hx hxe _ _
    · exact hwx ▸ demoted_decision h hx hxe _ _
  · refine absurd ⟨?_, ?_⟩ hed
    · exact hwx ▸ demoted_decision h hx hxe _ _
    · exact hzx ▸ demoted_decision h hx hxe _ _

/-- The only error of a judgement. -/
theorem baseDecision_error {item : Payload Extended} {e : PyError}
    (h : baseDecision host c ts item = .error e) : e = .typeError := by
  unfold baseDecision at h
  by_cases hsymbol : isSymbol (symbolOf host item) = true
  · rw [if_pos hsymbol] at h
    unfold fundingOf at h
    by_cases hmiss : fundingMissing host item = true
    · rw [if_pos hmiss] at h
      cases h
    · rw [if_neg hmiss] at h
      cases hv : item.get "funding_rate_pct" <;> simp only [hv] at h <;> cases h
      rfl
  · rw [if_neg hsymbol] at h
    cases h

theorem judgements_error {e : PyError} (h : items.mapM (baseDecision host c ts) = .error e) :
    e = .typeError := by
  induction items with
  | nil => cases h
  | cons item rest ih =>
    rw [List.mapM_cons] at h
    cases hitem : baseDecision host c ts item with
    | error e' =>
      rw [hitem] at h
      cases h
      exact baseDecision_error hitem
    | ok row =>
      rw [hitem] at h
      cases hrest : rest.mapM (baseDecision host c ts) with
      | error e' =>
        rw [hrest] at h
        cases h
        exact ih hrest
      | ok rest' =>
        rw [hrest] at h
        cases h

variable {request : Request Extended}

/-- **Where no two candidates clash, the universe forgets their order.** -/
theorem build_perm (hperm : items.Perm items')
    (hno : ∀ ts, timestampSeconds host request.decisionTimestamp = some ts →
      ∀ a ∈ items, ∀ b ∈ items, ¬ Clashing host c ts a b) :
    buildSelectedUniverse host c request items' = buildSelectedUniverse host c request items := by
  unfold buildSelectedUniverse
  cases hts : timestampSeconds host request.decisionTimestamp with
  | none => rfl
  | some ts =>
    simp only
    cases hrows : items.mapM (baseDecision host c ts) with
    | error e =>
      -- every failing judgement raises the same error
      cases hrows' : items'.mapM (baseDecision host c ts) with
      | error e' => rw [judgements_error hrows, judgements_error hrows']
      | ok rows' =>
        obtain ⟨rows, hrows'', _⟩ := perm_mapM hperm.symm hrows'
        rw [hrows] at hrows''
        cases hrows''
    | ok rows =>
      obtain ⟨rows', hrows', hrowsPerm⟩ := perm_mapM hperm hrows
      rw [hrows']
      show (hashInputs host (decisionsOf host c rows') >>= fun _ => sealUniverse host c request ts
          (sortOn (decisionKey host) (decisionsOf host c rows'))) =
        (hashInputs host (decisionsOf host c rows) >>= fun _ => sealUniverse host c request ts
          (sortOn (decisionKey host) (decisionsOf host c rows)))
      rw [hashInputs_eq, hashInputs_eq]
      by_cases hfinite : ∀ r ∈ rows, finiteEntries r.inputs = true
      · have hclash : ∀ a ∈ rows, ∀ b ∈ rows, ¬ Clash host a b := by
          intro r hr q hq hclash
          obtain ⟨a, ha, har⟩ := mem_mapM hrows hr
          obtain ⟨b, hb, hbq⟩ := mem_mapM hrows hq
          exact hno ts hts a ha b hb ⟨r, q, har, hbq, hfinite r hr, hfinite q hq, hclash⟩
        have hfinite' : ∀ r ∈ rows', finiteEntries r.inputs = true := fun r hr =>
          hfinite r (hrowsPerm.mem_iff.mpr hr)
        rw [if_pos (finite_decisions.mpr hfinite), if_pos (finite_decisions.mpr hfinite'),
          sorted_decisions_perm hrows hrows' hrowsPerm hclash]
      · have hfinite' : ¬ ∀ r ∈ rows', finiteEntries r.inputs = true := fun hall =>
          hfinite fun r hr => hall r (hrowsPerm.mem_iff.mp hr)
        rw [if_neg fun hall => hfinite (finite_decisions.mp hall),
          if_neg fun hall => hfinite' (finite_decisions.mp hall), error_bind, error_bind]

end Sufficient

/-! ## 5. A universe is returned -/

/-- What the selector takes from the language, on exact numbers. -/
structure ExactHost extends Host Extended where
  round_finite : ∀ x, FloatNum.isFinite x = true → FloatNum.isFinite (round8 x) = true
  log1p_finite : ∀ x, FiniteNonneg x → FloatNum.isFinite (log1p x) = true
  log1p_pos : ∀ x, FloatNum.isFinite x = true → FloatNum.ofInt 0 < x → FloatNum.ofInt 0 < log1p x

section Returned

variable {host : ExactHost} {c : UniverseConstraints Extended} {ts : Extended}
variable {items : List (Payload Extended)} {rows : List (Row Extended)}

theorem tiny_finite : FloatNum.isFinite (1e-12 : Extended) = true := rfl

theorem tiny_pos : FloatNum.ofInt 0 < (1e-12 : Extended) := by decide +kernel

theorem isFinite_volumeQuality {maxVolume volume : Extended} (hmax : FiniteNonneg maxVolume)
    (hvolume : FiniteNonneg volume) :
    FloatNum.isFinite (volumeQuality host.toHost maxVolume volume) = true := by
  unfold volumeQuality
  by_cases h : maxVolume ≤ FloatNum.ofInt 0
  · rw [if_pos h]
    rfl
  · rw [if_neg h]
    have hpos : FloatNum.ofInt 0 < maxVolume :=
      FloatNum.lt_of_not_le (isNumber_of_finite hmax.1) isNumber_zero h
    exact Extended.isFinite_div (Extended.isFinite_mul rfl (host.log1p_finite _ hvolume))
      (host.log1p_finite _ hmax) (host.log1p_pos _ hmax.1 hpos)

theorem isFinite_spreadQuality {spread : Extended} (h : FloatNum.isFinite spread = true) :
    FloatNum.isFinite (spreadQuality c spread) = true := by
  have hlimit : FloatNum.isFinite c.maxSpreadPct = true := (c.numbers _ (by simp)).1
  unfold spreadQuality
  split
  · rfl
  · refine isFinite_pyMax rfl (Extended.isFinite_mul rfl (Extended.isFinite_sub rfl ?_))
    exact Extended.isFinite_div h (isFinite_pyMax hlimit tiny_finite)
      (pos_pyMax hlimit tiny_pos tiny_finite)

theorem isFinite_volatilityQuality {maxVolatility volatility : Extended}
    (hmax : FloatNum.isFinite maxVolatility = true) (h : FloatNum.isFinite volatility = true) :
    FloatNum.isFinite (volatilityQuality maxVolatility volatility) = true := by
  unfold volatilityQuality
  by_cases hzero : maxVolatility ≤ FloatNum.ofInt 0
  · rw [if_pos hzero]
    rfl
  · rw [if_neg hzero]
    have hpos : FloatNum.ofInt 0 < maxVolatility :=
      FloatNum.lt_of_not_le (isNumber_of_finite hmax) isNumber_zero hzero
    exact Extended.isFinite_div (Extended.isFinite_mul rfl h) hmax hpos

theorem isFinite_slippagePenalty {slippage : Option Extended}
    (h : ∀ x ∈ slippage, FloatNum.isFinite x = true) :
    FloatNum.isFinite (slippagePenalty c slippage) = true := by
  have hlimit : FloatNum.isFinite c.maxExpectedSlippagePct = true := (c.numbers _ (by simp)).1
  cases slippage with
  | none => rfl
  | some x =>
    refine isFinite_pyMin rfl (Extended.isFinite_div (Extended.isFinite_mul rfl (h x rfl)) ?_ ?_)
    · exact isFinite_pyMax hlimit tiny_finite
    · exact pos_pyMax hlimit tiny_pos tiny_finite

theorem isFinite_regimeHalf {x : Option Extended} (h : ∀ y ∈ x, FloatNum.isFinite y = true) :
    FloatNum.isFinite (regimeHalf x) = true := by
  cases x with
  | none => rfl
  | some y => exact Extended.isFinite_mul rfl (isFinite_pyMin rfl (h y rfl))

theorem isFinite_uncertaintyPenalty (slippage liquidity funding : Option Extended)
    (missing : Bool) :
    FloatNum.isFinite (uncertaintyPenalty slippage liquidity funding missing) = true := by
  unfold uncertaintyPenalty
  cases slippage <;> cases liquidity <;> cases funding <;> cases missing <;> rfl

/-- The score and the components of a rankable row are finite. -/
theorem finite_scoreRow {maxVolume maxVolatility : Extended} {r : Row Extended}
    (hinputs : finiteEntries r.inputs = true) (hvolume : FiniteNonneg r.volume)
    (hmax : FiniteNonneg maxVolume) (hmaxVolatility : FloatNum.isFinite maxVolatility = true) :
    FloatNum.isFinite (scoreRow host.toHost c maxVolume maxVolatility r).score = true ∧
      finiteEntries (scoreRow host.toHost c maxVolume maxVolatility r).components = true := by
  have hnumber : ∀ key, FloatNum.isFinite (r.number key) = true := by
    intro key
    unfold Row.number
    cases hx : numberAt r.inputs key with
    | none => rfl
    | some x => exact finite_number hinputs hx
  have hregime : ∀ v : Value Extended, FloatNum.isFinite
    (regimeHalf (finiteNonnegative host.toHost v)) = true :=
    fun v => isFinite_regimeHalf fun y hy => (finiteNonnegative_spec host.toHost hy).1
  have hliquidity : FloatNum.isFinite (liquidityQuality (numberAt r.inputs "liquidity_score")) =
    true := by
    cases hx : numberAt r.inputs "liquidity_score" with
    | none => rfl
    | some x => exact Extended.isFinite_mul rfl (finite_number hinputs hx)
  have h₁ : FloatNum.isFinite (volumeQuality host.toHost maxVolume r.volume) = true :=
    isFinite_volumeQuality hmax hvolume
  have h₂ : FloatNum.isFinite (spreadQuality c r.spread) = true :=
    isFinite_spreadQuality (hnumber _)
  have h₃ := isFinite_volatilityQuality hmaxVolatility (hnumber "volatility_pct")
  have h₄ : FloatNum.isFinite (slippagePenalty c (numberAt r.inputs "expected_slippage_pct")) =
    true :=
    isFinite_slippagePenalty fun x hx => finite_number hinputs hx
  have h₅ := Extended.isFinite_sub (hregime (r.inputs.get "trend_strength"))
    (hregime (r.inputs.get "chop_score"))
  refine ⟨?_, ?_⟩
  · refine host.round_finite _ (isFinite_pyMax rfl (isFinite_pyMin rfl ?_))
    refine Extended.isFinite_sub (Extended.isFinite_sub
      (Extended.isFinite_add (Extended.isFinite_add
      (Extended.isFinite_add (Extended.isFinite_add ?_ ?_) ?_) ?_) h₅) h₄)
      (isFinite_uncertaintyPenalty _ _ _ _)
    · exact Extended.isFinite_mul h₁ rfl
    · exact Extended.isFinite_mul h₂ rfl
    · exact Extended.isFinite_mul hliquidity rfl
    · exact Extended.isFinite_mul h₃ rfl
  · refine finiteEntries_iff.mpr ?_
    unfold scoreRow
    simp only [List.forall_mem_cons, finite_float, finite_text]
    exact ⟨host.round_finite _ h₁, host.round_finite _ h₂, host.round_finite _ hliquidity,
      host.round_finite _ h₃, host.round_finite _ h₅, host.round_finite _ h₄,
      host.round_finite _ (isFinite_uncertaintyPenalty _ _ _ _), trivial, List.forall_mem_nil _⟩

theorem exact_time {v : Value Extended} (h : timestampSeconds host.toHost v = some ts) :
    FloatNum.isFinite ts = true :=
  timestamp_finite (fun _ hx => Extended.isFinite_div hx rfl (by decide +kernel)) h

/-- The ranking is finite where the inputs are. -/
theorem finite_ranking (h : items.mapM (baseDecision host.toHost c ts) = .ok rows)
    (hfinite : ∀ r ∈ rows, finiteEntries r.inputs = true) :
    ∀ s ∈ scored host.toHost c (cutVolume c (dedupe host.toHost rows)),
      FloatNum.isFinite s.score = true ∧ finiteEntries s.components = true := by
  have hbase : ∀ r ∈ eligibleRows (cutVolume c (dedupe host.toHost rows)),
      r ∈ rows ∧ r.state = .eligible := by
    intro r hr
    obtain ⟨hmem, he⟩ := mem_eligibleRows.mp hr
    exact ⟨(eligible_base host.toHost h hmem he).1, he⟩
  intro s hs
  obtain ⟨r, hr, hrs⟩ := List.mem_map.mp (mem_sortOn.mp hs)
  obtain ⟨hrow, he⟩ := hbase r hr
  rw [← hrs]
  refine finite_scoreRow (hfinite r hrow) (eligible_volume host.toHost h hrow he).2 ?_ ?_
  · refine maxOf_property ⟨rfl, by decide +kernel⟩ (List.forall_mem_map.mpr fun q hq => ?_)
    exact (eligible_volume host.toHost h (hbase q hq).1 (hbase q hq).2).2
  · refine maxOf_property (P := fun x => FloatNum.isFinite x = true) rfl
      (List.forall_mem_map.mpr fun q hq => ?_)
    exact (eligible_volatility host.toHost h (hbase q hq).1 (hbase q hq).2).1

variable {request : Request Extended}

/-- A universe is returned where no candidate has inputs that JSON refuses. -/
theorem build_returns (hts : timestampSeconds host.toHost request.decisionTimestamp = some ts)
    (h : items.mapM (baseDecision host.toHost c ts) = .ok rows)
    (hfinite : ∀ r ∈ rows, finiteEntries r.inputs = true) :
    ∃ u, buildSelectedUniverse host.toHost c request items = .ok u :=
  build_returns_of hts h hfinite (exact_time hts) (finite_ranking h hfinite)

end Returned

/-! ## 6. Clashing candidates show their order -/

section Necessary

variable {host : ExactHost} {c : UniverseConstraints Extended} {ts : Extended}
variable {items items' : List (Payload Extended)} {rows rows' : List (Row Extended)}

/-- A row without a rank is decided without the ranking. -/
theorem decisionOf_unranked {ranking : List (Scored Extended)} {z : Row Extended}
    (h : z.state ≠ .eligible) : decisionOf c ranking z = decisionOf c [] z := by
  unfold decisionOf
  simp [h]

/-- The decisions without a rank, in the order of the candidates. -/
def unranked (host : Host Extended) (c : UniverseConstraints Extended)
    (rows : List (Row Extended)) :
    List (Decision Extended) :=
  ((cutVolume c (dedupe host rows)).filter fun z => z.state ≠ .eligible).map (decisionOf c [])

theorem filter_map_congr {α β : Type} {l : List α} {f g : α → β} {p : β → Bool} {q : α → Bool}
    (hq : ∀ x ∈ l, q x = true → f x = g x) (hp : ∀ x ∈ l, q x = false → p (f x) = false) :
    (l.map f).filter p = ((l.filter q).map g).filter p := by
  induction l with
  | nil => rfl
  | cons x rest ih =>
    have hrest := ih (fun y hy => hq y (List.mem_cons_of_mem x hy))
      (fun y hy => hp y (List.mem_cons_of_mem x hy))
    cases hx : q x with
    | true =>
      rw [List.filter_cons_of_pos hx, List.map_cons, List.map_cons, List.filter_cons,
        List.filter_cons, hrest, hq x (by simp) hx]
    | false =>
      rw [List.filter_cons_of_neg (by simp [hx]), List.map_cons,
        List.filter_cons_of_neg (by simp [hp x (by simp) hx]), hrest]

/-- The decisions with the key of an unranked one are unranked. -/
theorem filter_unranked (h : items.mapM (baseDecision host.toHost c ts) = .ok rows)
    {z : Row Extended}
    (hz : z.state ≠ .eligible) :
    (decisionsOf host.toHost c rows).filter (fun d =>
        decisionKey host.toHost d = decisionKey host.toHost (decisionOf c [] z)) =
      (unranked host.toHost c rows).filter fun d =>
        decisionKey host.toHost d = decisionKey host.toHost (decisionOf c [] z) := by
  refine filter_map_congr (fun w _ hw => decisionOf_unranked (of_decide_eq_true hw))
    fun w hw he => ?_
  have helig : w.state = .eligible := not_not.mp (of_decide_eq_false he)
  have hn : Normal (cutVolume c (dedupe host.toHost rows)) := normal_rows host.toHost h
  have hmem : w.symbol ∈ (scored host.toHost c (cutVolume c (dedupe host.toHost rows))).map
      Scored.symbol := (scored_symbols host.toHost _).mem_iff.mpr
    (List.mem_map_of_mem (mem_eligibleRows.mpr ⟨hw, helig⟩))
  obtain ⟨k, s, hfind, _, _⟩ := findRank_spec 1 hmem
  refine decide_eq_false fun heq => ?_
  -- an eligible row has a rank
  unfold decisionKey decisionOf at heq
  simp [helig, hz, hfind] at heq

variable {request : Request Extended}

/-- If the universe forgets an order, so do the unranked decisions with one key. -/
theorem unranked_eq (hts : timestampSeconds host.toHost request.decisionTimestamp = some ts)
    (h : items.mapM (baseDecision host.toHost c ts) = .ok rows)
    (h' : items'.mapM (baseDecision host.toHost c ts) = .ok rows')
    (hfinite : ∀ r ∈ rows, finiteEntries r.inputs = true)
    (hbuild : buildSelectedUniverse host.toHost c request items' =
      buildSelectedUniverse host.toHost c request items) {z : Row Extended}
        (hz : z.state ≠ .eligible) :
    (unranked host.toHost c rows).filter (fun d =>
        decisionKey host.toHost d = decisionKey host.toHost (decisionOf c [] z)) =
      (unranked host.toHost c rows').filter fun d =>
        decisionKey host.toHost d = decisionKey host.toHost (decisionOf c [] z) := by
  obtain ⟨u, hu⟩ := build_returns hts h hfinite
  have hu' := hbuild.trans hu
  obtain ⟨ts₁, rows₁, hts₁, hrows₁, hcandidates₁, _⟩ := build_ok host.toHost hu
  obtain ⟨ts₂, rows₂, hts₂, hrows₂, hcandidates₂, _⟩ := build_ok host.toHost hu'
  rw [hts] at hts₁ hts₂
  cases hts₁
  cases hts₂
  rw [h] at hrows₁
  rw [h'] at hrows₂
  cases hrows₁
  cases hrows₂
  have hsorted := hcandidates₁.symm.trans hcandidates₂
  rw [← filter_unranked h hz, ← filter_unranked h' hz, ← filter_sortOn, hsorted, filter_sortOn]

/-- The first pass leaves rows alone that are not eligible. -/
theorem dedupe_two {a b : Row Extended} (ha : a.state ≠ .eligible) (hb : b.state ≠ .eligible) :
    dedupe host.toHost [a, b] = [a, b] := by
  unfold dedupe keepFirstBest keepFirstBest keepFirstBest
  rw [if_neg, if_neg]
  · intro h
    rcases h with ⟨_, _, hr, _⟩ | ⟨_, _, hr, _⟩
    · exact hb hr.2.1
    · exact hb hr.2.1
  · intro h
    rcases h with ⟨_, _, hr, _⟩ | ⟨_, _, hr, _⟩
    · exact ha hr.2.1
    · exact ha hr.2.1

/-- An eligible row, itself again, and a row that is not eligible. -/
theorem dedupe_twins {a b : Row Extended} (ha : a.state = .eligible) (hb : b.state ≠ .eligible) :
    dedupe host.toHost [a, a, b] = [a, a.demote "DUPLICATE_SYMBOL_LOWER_QUALITY", b] ∧
      dedupe host.toHost [b, a, a] = [b, a, a.demote "DUPLICATE_SYMBOL_LOWER_QUALITY"] := by
  simp [dedupe, keepFirstBest, Beaten, Rival, ha, hb]

/-- An eligible row, itself again, and a rival that is not better. -/
theorem dedupe_rival {a b : Row Extended} (ha : a.state = .eligible) (hb : b.state = .eligible)
    (hsymbol : a.symbol = b.symbol) (hle : duplicateKey host.toHost a ≤
      duplicateKey host.toHost b) :
    dedupe host.toHost [a, a, b] = [a, a.demote "DUPLICATE_SYMBOL_LOWER_QUALITY",
        b.demote "DUPLICATE_SYMBOL_LOWER_QUALITY"] ∧
      dedupe host.toHost [b, a, a] = if duplicateKey host.toHost a < duplicateKey host.toHost b then
        [b.demote "DUPLICATE_SYMBOL_LOWER_QUALITY", a, a.demote "DUPLICATE_SYMBOL_LOWER_QUALITY"]
      else [b, a.demote "DUPLICATE_SYMBOL_LOWER_QUALITY",
        a.demote "DUPLICATE_SYMBOL_LOWER_QUALITY"] := by
  by_cases hlt : duplicateKey host.toHost a < duplicateKey host.toHost b
  · have hnot : ¬ duplicateKey host.toHost b ≤ duplicateKey host.toHost a := not_le.mpr hlt
    simp [dedupe, keepFirstBest, Beaten, Rival, ha, hb, hsymbol, hle, hlt, hlt.le.not_gt, hnot]
  · have heq : duplicateKey host.toHost a = duplicateKey host.toHost b :=
      le_antisymm hle (not_lt.mp hlt)
    simp [dedupe, keepFirstBest, Beaten, Rival, ha, hb, hsymbol, heq]

/-- The cut leaves rows alone that all have a place. -/
theorem cutVolume_self (h : (eligibleRows rows).length ≤ 1) : cutVolume c rows = rows := by
  have hretained : retained c rows = sortOn volumeKey (eligibleRows rows) := by
    refine List.take_of_length_le ?_
    have hlen : (sortOn volumeKey (eligibleRows rows)).length = (eligibleRows rows).length :=
      (perm_of_sortOn _).length_eq
    have hpos := c.topN_pos
    omega
  unfold cutVolume
  rw [hretained]
  refine (List.map_congr_left fun r hr => if_neg fun hcut => hcut.2 ?_).trans (List.map_id _)
  exact List.mem_map_of_mem (mem_sortOn.mpr (mem_eligibleRows.mpr ⟨hr, hcut.1⟩))

/-- An unranked decision shows its row. -/
theorem unranked_injective {z w : Row Extended} (hz : z.state ≠ .eligible)
    (hzs : sortOn Prod.fst z.availability = z.availability)
    (hws : sortOn Prod.fst w.availability = w.availability)
    (h : decisionOf c [] z = decisionOf c [] w) : z = w := by
  have hstate : z.state = w.state := congrArg Decision.state h
  have hw : w.state ≠ .eligible := hstate ▸ hz
  have hreasons : z.reasons = w.reasons := by
    rw [← reasons_of_not_eligible (c := c) hz, ← reasons_of_not_eligible (c := c) hw, h]
  have havailability : z.availability = w.availability := by
    have hsorted := congrArg Decision.evidenceAvailability h
    unfold decisionOf at hsorted
    simp only [if_neg hz, if_neg hw, Option.map_none, Option.toList_none,
      List.append_nil] at hsorted
    rw [← hzs, ← hws, hsorted]
  have hsymbol : z.symbol = w.symbol := congrArg Decision.symbol h
  have hinputs : z.inputs = w.inputs := congrArg Decision.observedInputs h
  obtain ⟨symbol, state, reasons, inputs, availability⟩ := z
  obtain ⟨symbol', state', reasons', inputs', availability'⟩ := w
  simp only at hsymbol hstate hreasons hinputs havailability
  rw [hsymbol, hstate, hreasons, hinputs, havailability]

/-- Unranked decisions with one key. -/
theorem unranked_key {z w : Row Extended} (hz : z.state ≠ .eligible) (hstate : z.state = w.state)
    (hsymbol : z.symbol = w.symbol)
    (hsource : sourceOf host.toHost z.inputs "" = sourceOf host.toHost w.inputs "")
    (hhash : host.digest (.mapping z.inputs) = host.digest (.mapping w.inputs)) :
    decisionKey host.toHost (decisionOf c [] w) = decisionKey host.toHost (decisionOf c [] z) := by
  have hw : w.state ≠ .eligible := hstate ▸ hz
  unfold decisionKey decisionOf
  simp only [if_neg hw, hstate, hsymbol, hsource, hhash]

/-- What both orders of three candidates leave of two unranked rows with one key. -/
theorem unranked_pair (hts : timestampSeconds host.toHost request.decisionTimestamp = some ts)
    (h : items.mapM (baseDecision host.toHost c ts) = .ok rows)
    (h' : items'.mapM (baseDecision host.toHost c ts) = .ok rows')
    (hfinite : ∀ r ∈ rows, finiteEntries r.inputs = true)
    (hbuild : buildSelectedUniverse host.toHost c request items' =
      buildSelectedUniverse host.toHost c request items)
    {z w x y : Row Extended} (hz : z.state ≠ .eligible)
    (hleft : unranked host.toHost c rows = [decisionOf c [] z, decisionOf c [] w])
    (hright : unranked host.toHost c rows' = [decisionOf c [] x, decisionOf c [] y])
    (hkeys : ∀ v ∈ [z, w, x, y], decisionKey host.toHost (decisionOf c [] v) =
      decisionKey host.toHost (decisionOf c [] z)) :
    decisionOf c [] z = decisionOf c [] x ∧ decisionOf c [] w = decisionOf c [] y := by
  have heq := unranked_eq hts h h' hfinite hbuild hz
  simp only [List.forall_mem_cons] at hkeys
  obtain ⟨_, hw, hx, hy, _⟩ := hkeys
  rw [hleft, hright] at heq
  simpa [List.filter_cons, hw, hx, hy] using heq

theorem unranked_of_dedupe {D : List (Row Extended)} (hd : dedupe host.toHost rows = D)
    (hone : (eligibleRows D).length ≤ 1) :
    unranked host.toHost c rows = (D.filter fun z => z.state ≠ .eligible).map
      (decisionOf c []) := by
  unfold unranked
  rw [hd, cutVolume_self hone]

variable {a b : Payload Extended} {r q : Row Extended}

/-- Two refused candidates. -/
theorem refused_equal (hts : timestampSeconds host.toHost request.decisionTimestamp = some ts)
    (ha : baseDecision host.toHost c ts a = .ok r) (hb : baseDecision host.toHost c ts b = .ok q)
    (hfa : finiteEntries r.inputs = true) (hfb : finiteEntries q.inputs = true)
    (hclash : Clash host.toHost r q) (hr : r.state ≠ .eligible) (hstate : r.state = q.state)
    (hbuild : buildSelectedUniverse host.toHost c request [b, a] =
      buildSelectedUniverse host.toHost c request [a, b]) : False := by
  have hq : q.state ≠ .eligible := hstate ▸ hr
  have hab : [a, b].mapM (baseDecision host.toHost c ts) = .ok [r, q] :=
    mapM_ok_iff.mpr (.cons ha (.cons hb .nil))
  have hba : [b, a].mapM (baseDecision host.toHost c ts) = .ok [q, r] :=
    mapM_ok_iff.mpr (.cons hb (.cons ha .nil))
  have hleft : unranked host.toHost c [r, q] = [decisionOf c [] r, decisionOf c [] q] :=
    (unranked_of_dedupe (dedupe_two hr hq) (by simp [eligibleRows, hr, hq])).trans
    (by simp [hr, hq])
  have hright : unranked host.toHost c [q, r] = [decisionOf c [] q, decisionOf c [] r] :=
    (unranked_of_dedupe (dedupe_two hq hr) (by simp [eligibleRows, hr, hq])).trans
    (by simp [hr, hq])
  have hkey := unranked_key (c := c) hr hstate hclash.symbol hclash.source hclash.hash
  have heq := unranked_pair hts hab hba (by simp [hfa, hfb]) hbuild hr hleft hright (by simp [hkey])
  exact hclash.differ (unranked_injective hr (baseDecision_availability _ _ _ _ ha)
    (baseDecision_availability _ _ _ _ hb) heq.1)

/-- An eligible candidate twice, and a refused one that its duplicate meets. -/
theorem twins_equal (hts : timestampSeconds host.toHost request.decisionTimestamp = some ts)
    (ha : baseDecision host.toHost c ts a = .ok r) (hb : baseDecision host.toHost c ts b = .ok q)
    (hfa : finiteEntries r.inputs = true) (hfb : finiteEntries q.inputs = true)
    (hclash : Clash host.toHost r q) (hr : r.state = .eligible) (hq : q.state = .ineligible)
    (hbuild : buildSelectedUniverse host.toHost c request [b, a, a] =
      buildSelectedUniverse host.toHost c request [a, a, b]) : False := by
  have hqe : q.state ≠ .eligible := by
    rw [hq]
    nofun
  have hde : (r.demote "DUPLICATE_SYMBOL_LOWER_QUALITY").state ≠ .eligible :=
    demote_not_eligible r _
  have haab : [a, a, b].mapM (baseDecision host.toHost c ts) = .ok [r, r, q] :=
    mapM_ok_iff.mpr (.cons ha (.cons ha (.cons hb .nil)))
  have hbaa : [b, a, a].mapM (baseDecision host.toHost c ts) = .ok [q, r, r] :=
    mapM_ok_iff.mpr (.cons hb (.cons ha (.cons ha .nil)))
  have hd : dedupe host.toHost [r, r, q] = [r, r.demote "DUPLICATE_SYMBOL_LOWER_QUALITY", q] ∧
      dedupe host.toHost [q, r, r] = [q, r, r.demote "DUPLICATE_SYMBOL_LOWER_QUALITY"] :=
    dedupe_twins hr hqe
  have hleft : unranked host.toHost c [r, r, q] =
      [decisionOf c [] (r.demote "DUPLICATE_SYMBOL_LOWER_QUALITY"), decisionOf c [] q] :=
    (unranked_of_dedupe hd.1 (by simp [eligibleRows, hr, hqe, hde])).trans (by simp [hr, hqe, hde])
  have hright : unranked host.toHost c [q, r, r] =
      [decisionOf c [] q, decisionOf c [] (r.demote "DUPLICATE_SYMBOL_LOWER_QUALITY")] :=
    (unranked_of_dedupe hd.2 (by simp [eligibleRows, hr, hqe, hde])).trans (by simp [hr, hqe, hde])
  have hkey := unranked_key (c := c) hde hq.symm hclash.symbol hclash.source hclash.hash
  have heq := unranked_pair hts haab hbaa (by simp [hfa, hfb]) hbuild hde hleft hright
    (by simp [hkey])
  have hra : sortOn Prod.fst r.availability = r.availability := baseDecision_availability _ _ _ _ ha
  have hdq : r.demote "DUPLICATE_SYMBOL_LOWER_QUALITY" = q :=
    unranked_injective hde hra (baseDecision_availability _ _ _ _ hb) heq.1
  -- no check finds that a candidate is a duplicate
  have hknown := baseDecision_known _ _ _ _ hb "DUPLICATE_SYMBOL_LOWER_QUALITY"
    (by rw [← hdq]; simp [Row.demote])
  exact absurd hknown (by decide)

/-- An eligible candidate twice, and a rival that is not better. -/
theorem rivals_visible (hts : timestampSeconds host.toHost request.decisionTimestamp = some ts)
    (ha : baseDecision host.toHost c ts a = .ok r) (hb : baseDecision host.toHost c ts b = .ok q)
    (hfa : finiteEntries r.inputs = true) (hfb : finiteEntries q.inputs = true)
    (hclash : Clash host.toHost r q) (hr : r.state = .eligible) (hq : q.state = .eligible)
    (hle : duplicateKey host.toHost r ≤ duplicateKey host.toHost q)
    (hbuild : buildSelectedUniverse host.toHost c request [b, a, a] =
      buildSelectedUniverse host.toHost c request [a, a, b]) : False := by
  have hde : (r.demote "DUPLICATE_SYMBOL_LOWER_QUALITY").state ≠ .eligible :=
    demote_not_eligible r _
  have hqe : (q.demote "DUPLICATE_SYMBOL_LOWER_QUALITY").state ≠ .eligible :=
    demote_not_eligible q _
  have haab : [a, a, b].mapM (baseDecision host.toHost c ts) = .ok [r, r, q] :=
    mapM_ok_iff.mpr (.cons ha (.cons ha (.cons hb .nil)))
  have hbaa : [b, a, a].mapM (baseDecision host.toHost c ts) = .ok [q, r, r] :=
    mapM_ok_iff.mpr (.cons hb (.cons ha (.cons ha .nil)))
  obtain ⟨hd, hd'⟩ := @dedupe_rival host r q hr hq hclash.symbol hle
  have hleft : unranked host.toHost c [r, r, q] =
      [decisionOf c [] (r.demote "DUPLICATE_SYMBOL_LOWER_QUALITY"),
        decisionOf c [] (q.demote "DUPLICATE_SYMBOL_LOWER_QUALITY")] :=
    (unranked_of_dedupe hd (by simp [eligibleRows, hr, hqe, hde])).trans (by simp [hr, hqe, hde])
  have hkey : decisionKey host.toHost (decisionOf c []
    (q.demote "DUPLICATE_SYMBOL_LOWER_QUALITY")) =
      decisionKey host.toHost (decisionOf c [] (r.demote "DUPLICATE_SYMBOL_LOWER_QUALITY")) :=
    unranked_key hde rfl hclash.symbol hclash.source hclash.hash
  -- whoever wins, the two demoted rows change places or one replaces the other
  have heq : decisionOf c [] (r.demote "DUPLICATE_SYMBOL_LOWER_QUALITY") =
      decisionOf c [] (q.demote "DUPLICATE_SYMBOL_LOWER_QUALITY") := by
    by_cases hlt : duplicateKey host.toHost r < duplicateKey host.toHost q
    · rw [if_pos hlt] at hd'
      have hright : unranked host.toHost c [q, r, r] =
          [decisionOf c [] (q.demote "DUPLICATE_SYMBOL_LOWER_QUALITY"),
            decisionOf c [] (r.demote "DUPLICATE_SYMBOL_LOWER_QUALITY")] :=
        (unranked_of_dedupe hd' (by simp [eligibleRows, hr, hqe, hde])).trans
          (by simp [hr, hqe, hde])
      exact (unranked_pair hts haab hbaa (by simp [hfa, hfb]) hbuild hde hleft hright
        (by simp [hkey])).1
    · rw [if_neg hlt] at hd'
      have hright : unranked host.toHost c [q, r, r] =
          [decisionOf c [] (r.demote "DUPLICATE_SYMBOL_LOWER_QUALITY"),
            decisionOf c [] (r.demote "DUPLICATE_SYMBOL_LOWER_QUALITY")] :=
        (unranked_of_dedupe hd' (by simp [eligibleRows, hq, hde])).trans (by simp [hq, hde])
      exact (unranked_pair hts haab hbaa (by simp [hfa, hfb]) hbuild hde hleft hright
        (by simp [hkey])).2.symm
  have hra : sortOn Prod.fst r.availability = r.availability := baseDecision_availability _ _ _ _ ha
  have hqa : sortOn Prod.fst q.availability = q.availability := baseDecision_availability _ _ _ _ hb
  have hdq : r.demote "DUPLICATE_SYMBOL_LOWER_QUALITY" =
    q.demote "DUPLICATE_SYMBOL_LOWER_QUALITY" :=
    unranked_injective hde hra hqa heq
  exact hclash.differ (demote_injective hr hq hdq)

/-- **The universe forgets the order of its candidates exactly where no two of them clash.** -/
theorem order_irrelevant_iff (host : ExactHost) (c : UniverseConstraints Extended)
    (request : Request Extended) (pool : Set (Payload Extended)) :
    (∀ items : List (Payload Extended), (∀ i ∈ items, i ∈ pool) → ∀ items', items.Perm items' →
      buildSelectedUniverse host.toHost c request items' =
        buildSelectedUniverse host.toHost c request items) ↔
    ∀ ts, timestampSeconds host.toHost request.decisionTimestamp = some ts →
      ∀ a ∈ pool, ∀ b ∈ pool, ¬ Clashing host.toHost c ts a b := by
  constructor
  · intro hinv ts hts a ha b hb ⟨r, q, har, hbq, hfa, hfb, hclash⟩
    have htwo := hinv [a, b] (by simp [ha, hb]) [b, a] (List.Perm.swap b a [])
    have htwice : ∀ x y : Payload Extended, List.Perm [x, x, y] [y, x, x] :=
      fun x y => List.perm_append_singleton y [x, x]
    have hfirst := hinv [a, a, b] (by simp [ha, hb]) [b, a, a] (htwice a b)
    have hsecond := hinv [b, b, a] (by simp [ha, hb]) [a, b, b] (htwice b a)
    rcases hclash.states with hstate | ⟨hr, hq⟩ | ⟨hr, hq⟩
    · by_cases hr : r.state = .eligible
      · rcases le_total (duplicateKey host.toHost r) (duplicateKey host.toHost q) with hle | hle
        · exact rivals_visible hts har hbq hfa hfb hclash hr (hstate ▸ hr) hle hfirst
        · exact rivals_visible hts hbq har hfb hfa (clash_symm host.toHost hclash)
            (hstate ▸ hr) hr hle
            hsecond
      · exact refused_equal hts har hbq hfa hfb hclash hr hstate htwo
    · exact twins_equal hts har hbq hfa hfb hclash hr hq hfirst
    · exact twins_equal hts hbq har hfb hfa (clash_symm host.toHost hclash) hq hr hsecond
  · intro hno items hitems items' hperm
    exact build_perm hperm fun ts hts a ha b hb => hno ts hts a (hitems a ha) b (hitems b hb)

end Necessary

/-! ## 7. One candidate twice -/

def sampleExactHost : ExactHost where
  toHost := sampleHost
  round_finite x h := by
    obtain ⟨q, rfl⟩ := Extended.isFinite_iff.mp h
    rfl
  log1p_finite _ h := h.1
  log1p_pos _ _ h := h

/-- A candidate without a market capitalisation, and with one that is no number. -/
def sampleTwin (marketCap : Value Extended) : Payload Extended :=
  sampleCandidate "AAAUSDT" 1 ++ [("market_cap_usd", marketCap)]

/-- What is said about the market capitalisation. -/
def capReport (items : List (Payload Extended)) : Option (List (List String × Option String)) :=
  (buildSelectedUniverse sampleExactHost.toHost sampleConstraints sampleRequest items).toOption.map
    fun u => u.candidates.map fun d => (d.reasons, d.evidenceAvailability.lookup "market_cap_usd")

/-- **The first of two candidates that read the same is selected**, with its own evidence. -/
theorem order_shows :
    capReport [sampleTwin .none, sampleTwin (.text "n/a")] =
        some [([], some "NOT_REQUIRED"),
          (["DUPLICATE_SYMBOL_LOWER_QUALITY"], some "INVALID_OPTIONAL")] ∧
      capReport [sampleTwin (.text "n/a"), sampleTwin .none] =
        some [([], some "INVALID_OPTIONAL"),
          (["DUPLICATE_SYMBOL_LOWER_QUALITY"], some "NOT_REQUIRED")] ∧
      buildSelectedUniverse sampleExactHost.toHost sampleConstraints sampleRequest
          [sampleTwin .none, sampleTwin (.text "n/a")] ≠
        buildSelectedUniverse sampleExactHost.toHost sampleConstraints sampleRequest
          [sampleTwin (.text "n/a"), sampleTwin .none] := by
  have hfirst : capReport [sampleTwin .none, sampleTwin (.text "n/a")] =
      some [([], some "NOT_REQUIRED"),
        (["DUPLICATE_SYMBOL_LOWER_QUALITY"], some "INVALID_OPTIONAL")] := by decide +kernel
  have hsecond : capReport [sampleTwin (.text "n/a"), sampleTwin .none] =
      some [([], some "INVALID_OPTIONAL"),
        (["DUPLICATE_SYMBOL_LOWER_QUALITY"], some "NOT_REQUIRED")] := by decide +kernel
  refine ⟨hfirst, hsecond, fun heq => ?_⟩
  have hsame : capReport [sampleTwin .none, sampleTwin (.text "n/a")] =
      capReport [sampleTwin (.text "n/a"), sampleTwin .none] := by
    unfold capReport
    rw [heq]
  rw [hfirst, hsecond] at hsame
  exact absurd hsame (by decide)

end AlphaForge.Universe
