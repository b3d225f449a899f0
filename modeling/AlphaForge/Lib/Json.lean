/-
  File:      AlphaForge/Lib/Json.lean
  Subject:   Payloads up to what a dictionary is: a mapping is what `lookup` finds in it, whatever
             the order of its entries and whatever stands behind an earlier entry of the same key.
             No program fact.

  * `reshape` -- rebuilds a value with its mappings sorted by key, each key once.
  * `canonical` -- the value that the canonical text of a value is read back as.
  * `normal` -- what `==` sees of a value: numbers by what they denote. `a == b` is
    `a.normal = b.normal`, an equivalence by construction.
  * **`reshapeEntries_eq_iff`** -- two mappings agree exactly when they agree on every key.
-/
import AlphaForge.Lib.Dictionary
import AlphaForge.Lib.Payload

namespace AlphaForge.Lib

/-! ## 1. Values can be compared -/

section Compare

variable {F : Type} [DecidableEq F]

mutual

def Value.beq : Value F → Value F → Bool
  | .none, .none => true
  | .bool a, .bool b => decide (a = b)
  | .int a, .int b => decide (a = b)
  | .float a, .float b => decide (a = b)
  | .text a, .text b => decide (a = b)
  | .list a, .list b => beqItems a b
  | .mapping a, .mapping b => beqEntries a b
  | _, _ => false

def beqItems : List (Value F) → List (Value F) → Bool
  | [], [] => true
  | v :: rest, w :: others => v.beq w && beqItems rest others
  | _, _ => false

def beqEntries : List (String × Value F) → List (String × Value F) → Bool
  | [], [] => true
  | (j, v) :: rest, (k, w) :: others => decide (j = k) && v.beq w && beqEntries rest others
  | _, _ => false

end

mutual

theorem beq_iff : ∀ a b : Value F, a.beq b = true ↔ a = b
  | .none, b => by cases b <;> simp [Value.beq]
  | .bool _, b => by cases b <;> simp [Value.beq]
  | .int _, b => by cases b <;> simp [Value.beq]
  | .float _, b => by cases b <;> simp [Value.beq]
  | .text _, b => by cases b <;> simp [Value.beq]
  | .list items, b => by
    cases b with
    | list others => rw [Value.beq, beqItems_iff items others, Value.list.injEq]
    | _ => simp [Value.beq]
  | .mapping entries, b => by
    cases b with
    | mapping others => rw [Value.beq, beqEntries_iff entries others, Value.mapping.injEq]
    | _ => simp [Value.beq]

theorem beqItems_iff : ∀ a b : List (Value F), beqItems a b = true ↔ a = b
  | [], b => by cases b <;> simp [beqItems]
  | v :: rest, b => by
    cases b with
    | nil => simp [beqItems]
    | cons w others =>
      rw [beqItems, Bool.and_eq_true, beq_iff v w, beqItems_iff rest others, List.cons.injEq]

theorem beqEntries_iff : ∀ a b : List (String × Value F), beqEntries a b = true ↔ a = b
  | [], b => by cases b <;> simp [beqEntries]
  | (j, v) :: rest, b => by
    cases b with
    | nil => simp [beqEntries]
    | cons e others =>
      rw [beqEntries, Bool.and_eq_true, Bool.and_eq_true, decide_eq_true_eq, beq_iff v e.2,
        beqEntries_iff rest others, List.cons.injEq, Prod.mk.injEq]

end

instance : DecidableEq (Value F) := fun a b => decidable_of_iff _ (beq_iff a b)

end Compare

/-! ## 2. Mappings sorted by key -/

section Place

variable {ν : Type}

/-- Puts an entry where its key belongs; an entry of the same key gives way. -/
def place (key : String) (value : ν) : List (String × ν) → List (String × ν)
  | [] => [(key, value)]
  | e :: rest =>
    if key < e.1 then (key, value) :: e :: rest
    else if key = e.1 then (key, value) :: rest
    else e :: place key value rest

/-- The keys ascend. -/
def Ascending (entries : List (String × ν)) : Prop := entries.Pairwise fun a b => a.1 < b.1

theorem mem_place {key : String} {value : ν} {entries : List (String × ν)} {e : String × ν}
    (h : e ∈ place key value entries) : e = (key, value) ∨ e ∈ entries := by
  induction entries with
  | nil => exact Or.inl (List.mem_singleton.mp h)
  | cons x rest ih =>
    unfold place at h
    split at h
    · exact List.mem_cons.mp h
    · split at h
      · rcases List.mem_cons.mp h with rfl | hrest
        · exact Or.inl rfl
        · exact Or.inr (List.mem_cons_of_mem x hrest)
      · rcases List.mem_cons.mp h with rfl | hrest
        · exact Or.inr List.mem_cons_self
        · exact (ih hrest).imp_right (List.mem_cons_of_mem x)

theorem ascending_place {key : String} {value : ν} {entries : List (String × ν)}
    (h : Ascending entries) : Ascending (place key value entries) := by
  induction entries with
  | nil => exact List.pairwise_singleton _ _
  | cons x rest ih =>
    obtain ⟨hx, hrest⟩ := List.pairwise_cons.mp h
    unfold place
    split
    · rename_i hlt
      refine List.pairwise_cons.mpr ⟨fun e he => ?_, h⟩
      rcases List.mem_cons.mp he with rfl | hmem
      · exact hlt
      · exact lt_trans hlt (hx e hmem)
    · rename_i hnlt
      split
      · rename_i heq
        subst heq
        exact List.pairwise_cons.mpr ⟨hx, hrest⟩
      · rename_i hne
        refine List.pairwise_cons.mpr ⟨fun e he => ?_, ih hrest⟩
        rcases mem_place he with rfl | hmem
        · exact lt_of_le_of_ne (not_lt.mp hnlt) (Ne.symm hne)
        · exact hx e hmem

theorem lookup_head {k : String} {e : String × ν} {rest : List (String × ν)} (h : k = e.1) :
    (e :: rest).lookup k = some e.2 := by
  rw [List.lookup_cons, beq_iff_eq.mpr h]

theorem lookup_tail {k : String} {e : String × ν} {rest : List (String × ν)} (h : k ≠ e.1) :
    (e :: rest).lookup k = rest.lookup k := by
  rw [List.lookup_cons, beq_eq_false_iff_ne.mpr h]

theorem lookup_place (key k : String) (value : ν) (entries : List (String × ν)) :
    (place key value entries).lookup k = if k = key then some value else entries.lookup k := by
  by_cases h : k = key
  · rw [if_pos h]
    induction entries with
    | nil => exact lookup_head h
    | cons x rest ih =>
      unfold place
      split
      · exact lookup_head h
      · split
        · exact lookup_head h
        · rename_i hne
          rw [lookup_tail fun hx => hne (h.symm.trans hx), ih]
  · rw [if_neg h]
    induction entries with
    | nil => exact lookup_tail h
    | cons x rest ih =>
      unfold place
      split
      · exact lookup_tail h
      · split
        · rename_i heq
          rw [lookup_tail h, lookup_tail (heq ▸ h)]
        · by_cases hx : k = x.1
          · rw [lookup_head hx, lookup_head hx]
          · rw [lookup_tail hx, lookup_tail hx, ih]

theorem lookup_none_of_lt {entries : List (String × ν)} {k : String}
    (h : ∀ e ∈ entries, k < e.1) : entries.lookup k = none := by
  rw [List.lookup_eq_none_iff]
  intro e he
  exact bne_iff_ne.mpr (ne_of_lt (h e he))

theorem lookup_below {x y : String × ν} {others : List (String × ν)}
    (hy : ∀ e ∈ others, y.1 < e.1) (h : x.1 < y.1) : (y :: others).lookup x.1 = none := by
  refine lookup_none_of_lt fun e he => ?_
  rcases List.mem_cons.mp he with rfl | hmem
  · exact h
  · exact lt_trans h (hy e hmem)

/-- Sorted entries are determined by what is found in them. -/
theorem ascending_ext {p q : List (String × ν)} (hp : Ascending p) (hq : Ascending q)
    (h : ∀ k, p.lookup k = q.lookup k) : p = q := by
  induction p generalizing q with
  | nil =>
    cases q with
    | nil => rfl
    | cons y others =>
      have hfound := h y.1
      rw [List.lookup_nil, lookup_head rfl] at hfound
      cases hfound
  | cons x rest ih =>
    obtain ⟨hx, hrest⟩ := List.pairwise_cons.mp hp
    cases q with
    | nil =>
      have hfound := h x.1
      rw [List.lookup_nil, lookup_head rfl] at hfound
      cases hfound
    | cons y others =>
      obtain ⟨hy, hothers⟩ := List.pairwise_cons.mp hq
      -- the smallest key of one list is found in the other, so it is the smallest there too
      have hkey : x.1 = y.1 := by
        rcases lt_trichotomy x.1 y.1 with hlt | heq | hgt
        · have hfound := h x.1
          rw [lookup_head rfl, lookup_below hy hlt] at hfound
          cases hfound
        · exact heq
        · have hfound := h y.1
          rw [lookup_below hx hgt, lookup_head rfl] at hfound
          cases hfound
      have hvalue : x.2 = y.2 := by
        have hfound := h x.1
        rw [lookup_head rfl, lookup_head hkey] at hfound
        exact Option.some.inj hfound
      have htail : rest = others := by
        refine ih hrest hothers fun k => ?_
        by_cases hk : k = x.1
        · rw [lookup_none_of_lt (hk ▸ hx), lookup_none_of_lt (hk ▸ hkey ▸ hy)]
        · have hfound := h k
          rwa [lookup_tail hk, lookup_tail (hkey ▸ hk)] at hfound
      rw [Prod.ext hkey hvalue, htail]

end Place

/-! ## 3. Rebuilding a value -/

section Reshape

variable {F G H : Type}

mutual

/-- The value with its mappings sorted by key, each key once, and its numbers and Booleans
    replaced. -/
def Value.reshape (leaf : Value F → Value G) : Value F → Value G
  | .none => .none
  | .bool b => leaf (.bool b)
  | .int n => leaf (.int n)
  | .float x => leaf (.float x)
  | .text s => .text s
  | .list items => .list (reshapeItems leaf items)
  | .mapping entries => .mapping (reshapeEntries leaf entries)

def reshapeItems (leaf : Value F → Value G) : List (Value F) → List (Value G)
  | [] => []
  | v :: rest => v.reshape leaf :: reshapeItems leaf rest

def reshapeEntries (leaf : Value F → Value G) : List (String × Value F) → List (String × Value G)
  | [] => []
  | (key, v) :: rest => place key (v.reshape leaf) (reshapeEntries leaf rest)

end

variable {leaf : Value F → Value G}

@[simp] theorem reshape_none : (Value.none : Value F).reshape leaf = .none := by rw [Value.reshape]

@[simp] theorem reshape_text (s : String) : (Value.text s : Value F).reshape leaf = .text s := by
  rw [Value.reshape]

@[simp] theorem reshape_list (items : List (Value F)) :
    (Value.list items).reshape leaf = .list (reshapeItems leaf items) := by
  rw [Value.reshape]

@[simp] theorem reshape_mapping (entries : Payload F) :
    (Value.mapping entries).reshape leaf = .mapping (reshapeEntries leaf entries) := by
  rw [Value.reshape]

theorem reshapeItems_eq_map (items : List (Value F)) :
    reshapeItems leaf items = items.map (Value.reshape leaf) := by
  induction items with
  | nil => rfl
  | cons v rest ih => rw [reshapeItems, ih, List.map_cons]

theorem ascending_reshape (entries : Payload F) : Ascending (reshapeEntries leaf entries) := by
  induction entries with
  | nil => exact List.Pairwise.nil
  | cons e rest ih => exact ascending_place ih

theorem lookup_reshape (entries : Payload F) (k : String) :
    (reshapeEntries leaf entries).lookup k = (entries.lookup k).map (Value.reshape leaf) := by
  induction entries with
  | nil => rfl
  | cons e rest ih =>
    rw [reshapeEntries, lookup_place, ih]
    by_cases h : k = e.1
    · rw [if_pos h, lookup_head h]
      rfl
    · rw [if_neg h, lookup_tail h]

theorem get_reshape (entries : Payload F) (k : String) :
    Payload.get (reshapeEntries leaf entries) k = (Payload.get entries k).reshape leaf := by
  unfold Payload.get Payload.getD
  rw [lookup_reshape]
  cases entries.lookup k with
  | none => rw [Option.map_none, Option.getD_none, Option.getD_none, reshape_none]
  | some v => rfl

theorem mem_keys_iff {ν : Type} {entries : List (String × ν)} {k : String} :
    k ∈ entries.map Prod.fst ↔ (entries.lookup k).isSome = true := by
  induction entries with
  | nil => simp
  | cons e rest ih =>
    rw [List.map_cons, List.mem_cons]
    by_cases h : k = e.1
    · rw [lookup_head h]
      exact iff_of_true (Or.inl h) rfl
    · rw [lookup_tail h, ← ih]
      exact or_iff_right h

/-- Where every key stands once, each entry is found. -/
theorem lookup_of_mem {ν : Type} {entries : List (String × ν)} (h : (entries.map Prod.fst).Nodup)
    {k : String} {v : ν} (hmem : (k, v) ∈ entries) : entries.lookup k = some v := by
  induction entries with
  | nil => cases hmem
  | cons e rest ih =>
    obtain ⟨hnew, hrest⟩ := List.nodup_cons.mp h
    rcases List.mem_cons.mp hmem with rfl | htail
    · exact lookup_head rfl
    · have hne : k ≠ e.1 := fun hk => hnew (hk ▸ List.mem_map_of_mem htail)
      rw [lookup_tail hne, ih hrest htail]

theorem mem_keys_reshape {entries : Payload F} {k : String} :
    k ∈ (reshapeEntries leaf entries).map Prod.fst ↔ k ∈ entries.map Prod.fst := by
  rw [mem_keys_iff, mem_keys_iff, lookup_reshape, Option.isSome_map]

/-- **Two mappings are the same dictionary exactly when every key has the same value in both.** -/
theorem reshapeEntries_eq_iff {p : Payload F} {leaf' : Value H → Value G} {q : Payload H} :
    reshapeEntries leaf p = reshapeEntries leaf' q ↔
      ∀ k, (p.lookup k).map (Value.reshape leaf) = (q.lookup k).map (Value.reshape leaf') := by
  constructor
  · intro h k
    rw [← lookup_reshape, ← lookup_reshape, h]
  · intro h
    refine ascending_ext (ascending_reshape p) (ascending_reshape q) fun k => ?_
    rw [lookup_reshape, lookup_reshape, h k]

theorem reshapeEntries_place (key : String) (v : Value F) (entries : Payload F) :
    reshapeEntries leaf (place key v entries) =
      place key (v.reshape leaf) (reshapeEntries leaf entries) := by
  refine ascending_ext (ascending_reshape _) (ascending_place (ascending_reshape _)) fun k => ?_
  rw [lookup_reshape, lookup_place, lookup_place, lookup_reshape]
  split
  · rfl
  · rfl

/-! ## 4. Canonical and normal values -/

/-- The value that is read back from the canonical text of a value. -/
def Value.canonical (v : Value F) : Value F := v.reshape id

mutual

/-- Nothing is lost by reading the canonical text. -/
theorem reshape_canonical : ∀ v : Value F, v.canonical.reshape leaf = v.reshape leaf
  | .none => rfl
  | .bool _ => rfl
  | .int _ => rfl
  | .float _ => rfl
  | .text _ => rfl
  | .list items => by
    rw [Value.canonical, reshape_list, reshape_list, reshape_list, reshapeItems_canonical items]
  | .mapping entries => by
    rw [Value.canonical, reshape_mapping, reshape_mapping, reshape_mapping,
      reshapeEntries_canonical entries]

theorem reshapeItems_canonical : ∀ items : List (Value F),
    reshapeItems leaf (reshapeItems id items) = reshapeItems leaf items
  | [] => rfl
  | v :: rest => by
    have hv : (v.reshape id).reshape leaf = v.reshape leaf := reshape_canonical v
    rw [reshapeItems, reshapeItems, reshapeItems, hv, reshapeItems_canonical rest]

theorem reshapeEntries_canonical : ∀ entries : List (String × Value F),
    reshapeEntries leaf (reshapeEntries id entries) = reshapeEntries leaf entries
  | [] => rfl
  | (key, v) :: rest => by
    have hv : (v.reshape id).reshape leaf = v.reshape leaf := reshape_canonical v
    rw [reshapeEntries, reshapeEntries_place, hv, reshapeEntries_canonical rest, reshapeEntries]

end

theorem canonical_mapping (entries : Payload F) :
    (Value.mapping entries).canonical = .mapping (reshapeEntries id entries) :=
      reshape_mapping entries

@[simp] theorem canonical_canonical (v : Value F) : v.canonical.canonical = v.canonical :=
  reshape_canonical v

/-- Mappings whose values have the same canonical forms, key by key. -/
theorem canonical_mapping_congr {p q : Payload F}
    (h : List.Forall₂ (fun e e' => e.1 = e'.1 ∧ e.2.canonical = e'.2.canonical) p q) :
    (Value.mapping p).canonical = (Value.mapping q).canonical := by
  unfold Value.canonical
  rw [reshape_mapping, reshape_mapping]
  refine congrArg Value.mapping ?_
  induction h with
  | nil => rfl
  | @cons e e' rest others he _ ih =>
    have hvalue : e.2.reshape id = e'.2.reshape id := he.2
    rw [reshapeEntries, reshapeEntries, he.1, hvalue, ih]

theorem canonical_list_congr {items others : List (Value F)}
    (h : items.map Value.canonical = others.map Value.canonical) :
    (Value.list items).canonical = (Value.list others).canonical := by
  unfold Value.canonical at h ⊢
  rw [reshape_list, reshape_list, reshapeItems_eq_map, reshapeItems_eq_map, h]

/-- Entries of a canonical mapping. -/
theorem canonical_lookup {p q : Payload F}
    (h : (Value.mapping p).canonical = (Value.mapping q).canonical) (key : String) :
    (p.lookup key).map Value.canonical = (q.lookup key).map Value.canonical := by
  unfold Value.canonical at h ⊢
  rw [reshape_mapping, reshape_mapping, Value.mapping.injEq] at h
  exact reshapeEntries_eq_iff.mp h key

theorem canonical_list {items others : List (Value F)}
    (h : (Value.list items).canonical = (Value.list others).canonical) :
    items.map Value.canonical = others.map Value.canonical := by
  unfold Value.canonical at h
  rw [reshape_list, reshape_list, Value.list.injEq, reshapeItems_eq_map, reshapeItems_eq_map] at h
  exact h

/-- **Two dictionaries written with the same keys are the same exactly when their values are.** -/
theorem canonical_mapping_iff {p q : Payload F} (hkeys : p.map Prod.fst = q.map Prod.fst)
    (hnodup : (p.map Prod.fst).Nodup) :
    (Value.mapping p).canonical = (Value.mapping q).canonical ↔
      List.Forall₂ (fun e e' => e.2.canonical = e'.2.canonical) p q := by
  have hsame : List.Forall₂ (fun e e' => e.1 = e'.1) p q :=
    List.forall₂_map_left_iff.mp (List.forall₂_map_right_iff.mp (List.forall₂_eq_eq_eq ▸ hkeys))
  constructor
  · intro h
    obtain ⟨hlength, hzip⟩ := List.forall₂_iff_zip.mp hsame
    refine List.forall₂_iff_zip.mpr ⟨hlength, fun {a b} hab => ?_⟩
    have ha := lookup_of_mem hnodup (List.of_mem_zip hab).1
    have hb := lookup_of_mem (hkeys ▸ hnodup) (List.of_mem_zip hab).2
    have hlookup := canonical_lookup h a.1
    rw [ha, hzip hab, hb] at hlookup
    exact Option.some.inj hlookup
  · intro h
    refine canonical_mapping_congr ?_
    obtain ⟨hlength, hzip⟩ := List.forall₂_iff_zip.mp hsame
    obtain ⟨_, hvalues⟩ := List.forall₂_iff_zip.mp h
    exact List.forall₂_iff_zip.mpr ⟨hlength, fun hab => ⟨hzip hab, hvalues hab⟩⟩

theorem get_of_lookup {p : Payload F} {key : String} {v : Value F} (h : p.lookup key = some v) :
    Payload.get p key = v := by
  unfold Payload.get Payload.getD
  rw [h]
  rfl

theorem lookup_of_get {p : Payload F} {key : String} {v : Value F} (h : Payload.get p key = v)
    (hv : v ≠ .none) : p.lookup key = some v := by
  unfold Payload.get Payload.getD at h
  cases hp : p.lookup key with
  | none =>
    rw [hp] at h
    exact absurd h.symm hv
  | some w =>
    rw [hp] at h
    exact congrArg some h

end Reshape

section Normal

variable {F : Type} [FloatNum F]

/-- The number that a number or a Boolean denotes. -/
def denoted : Value F → Value (Option ExtRat)
  | .bool b => .float (some (((if b then 1 else 0 : ℚ) : WithTop ℚ) : ExtRat))
  | .int n => .float (some (((n : ℚ) : WithTop ℚ) : ExtRat))
  | .float x => .float (FloatNum.value x)
  | _ => .none

/-- What `==` sees of a value. Containers hold equal what is one object, so a NaN that was read
    equals itself. -/
def Value.normal (v : Value F) : Value (Option ExtRat) := v.reshape denoted

@[simp] theorem normal_canonical (v : Value F) : v.canonical.normal = v.normal :=
  reshape_canonical v

theorem normal_eq_of_canonical {v w : Value F} (h : v.canonical = w.canonical) :
    v.normal = w.normal := by
  rw [← normal_canonical v, h, normal_canonical]

theorem normal_eq_text {v : Value F} {s : String} (h : v.normal = .text s) : v = .text s := by
  cases v with
  | text t =>
    rw [Value.normal, reshape_text] at h
    rw [Value.text.inj h]
  | _ => simp [Value.normal, Value.reshape, denoted] at h

theorem normal_eq_none {v : Value F} (h : v.normal = .none) : v = .none := by
  cases v with
  | none => rfl
  | _ => simp [Value.normal, Value.reshape, denoted] at h

/-- `a == b`. -/
def Value.Same (v w : Value F) : Prop := v.normal = w.normal

instance (v w : Value F) : Decidable (v.Same w) := inferInstanceAs (Decidable (_ = _))

/-- What is compared with something that is there is there. -/
theorem lookup_of_same {p : Payload F} {key : String} {v : Value F}
    (h : (Payload.get p key).Same v) (hv : v ≠ .none) :
    (p.lookup key).map Value.normal = some v.normal := by
  have hne : Payload.get p key ≠ .none := fun hnone => by
    rw [hnone] at h
    exact hv (normal_eq_none h.symm)
  rw [lookup_of_get rfl hne]
  exact congrArg some h

mutual

theorem finite_canonical : ∀ v : Value F, v.finite = true → v.canonical.finite = true
  | .none => id
  | .bool _ => id
  | .int _ => id
  | .float _ => id
  | .text _ => id
  | .list items => finite_canonicalItems items
  | .mapping entries => fun h => finiteEntries_iff.mpr (finite_canonicalEntries entries h)

theorem finite_canonicalItems : ∀ items : List (Value F),
    finiteItems items = true → finiteItems (reshapeItems id items) = true
  | [] => id
  | v :: rest => fun h => by
    rw [finiteItems, Bool.and_eq_true] at h
    rw [reshapeItems, finiteItems, Bool.and_eq_true]
    exact ⟨finite_canonical v h.1, finite_canonicalItems rest h.2⟩

theorem finite_canonicalEntries : ∀ entries : List (String × Value F),
    finiteEntries entries = true → ∀ e ∈ reshapeEntries id entries, e.2.finite = true
  | [] => fun _ => List.forall_mem_nil _
  | (key, v) :: rest => fun h e he => by
    rw [finiteEntries, Bool.and_eq_true] at h
    rw [reshapeEntries] at he
    rcases mem_place he with rfl | hmem
    · exact finite_canonical v h.1
    · exact finite_canonicalEntries rest h.2 e hmem

end

end Normal

end AlphaForge.Lib
