/-
  File:      AlphaForge/Exchange/Rows.lean
  Subject:   The rows of the exchange's payloads in `binance_reconciliation_provider.py`: positions,
             open orders and fills, and the symbols whose fills are needed.

  Every normalization stops at the first row that it cannot read. Positions keep every row; orders
  keep the rows whose status is one of `OPEN_STATUSES`.

  * `Decimal.abs` -- the magnitude of a decimal, rounded by the context to 28 digits.
  * `normalizePositions_ok` -- every row has its position, with its exact quantity.
  * `normalizeOrders_ok` -- every row with an open status has its order, and every order such a row.
  * `mem_selectedSymbols` -- the symbols whose fills are needed.
-/
import AlphaForge.Lib.Decimal
import AlphaForge.Lib.Payload

namespace AlphaForge.Exchange

open AlphaForge.Lib

/-! ## 1. Decimals -/

/-- A finite `Decimal`. -/
structure Decimal where
  negative : Bool
  coefficient : ℕ
  exponent : ℤ
  deriving DecidableEq, Repr

namespace Decimal

/-- The magnitude, exactly. -/
def magnitude (d : Decimal) : ℚ := d.coefficient * 10 ^ d.exponent

def isZero (d : Decimal) : Bool := d.coefficient == 0

/-- The exponent of the last digit that the context keeps. -/
def unit (d : Decimal) : ℤ := max (Nat.log 10 d.coefficient + 1 + d.exponent - 28) (-1000026)

/-- `abs(d)` in the default context; `none` where it signals an overflow. -/
def abs (d : Decimal) : Option ℚ :=
  let coefficient : ℕ := if d.exponent < d.unit then
      (roundHalfEven ((d.coefficient : ℚ) / 10 ^ (d.unit - d.exponent).toNat)).toNat
    else d.coefficient
  let exponent := if d.exponent < d.unit then d.unit else d.exponent
  if coefficient ≠ 0 ∧ 999999 < Nat.log 10 coefficient + exponent then none
  else some (coefficient * 10 ^ exponent)

end Decimal

/-- What `Decimal(text)` reads; signalling NaNs count as not read. -/
inductive DecimalText where
  | finite (d : Decimal)
  /-- A NaN or an infinity. -/
  | special
  deriving DecidableEq, Repr

/-- What the language makes of the values of a payload. -/
structure Language (F : Type) extends Builtins F where
  upper : String → String
  lower : String → String
  strip : String → String
  /-- `unicodedata.category`. -/
  category : Char → String
  decimal : String → Option DecimalText
  /-- `float(decimal)`. -/
  decimalFloat : Decimal → F
  /-- `int(value)`; `none` where it raises. -/
  int : Value F → Option ℤ
  /-- `datetime.fromtimestamp(int(value) / 1000, tz=UTC).isoformat()` with `Z` for the zone; `none`
      where it raises. -/
  timestamp : Value F → Option String
  /-- The first twelve digits of the SHA-256 of a text. -/
  digest : String → String
  /-- The redaction of secrets in a message. -/
  redact : String → String
  /-- The digits that follow `banned until` in a message. -/
  bannedUntil : String → Option ℤ

variable {F : Type} [FloatNum F] (lang : Language F)

/-! ## 2. Errors -/

structure Position (F : Type) where
  symbol : String
  symbolValid : Bool
  qty : F
  qtyExact : Decimal
  active : Bool
  epsilonFiltered : Bool
  exactZero : Bool
  entryPrice : F
  positionSide : String
  unrealizedPnl : F

/-- A transport exception that is retried: its class and its category. -/
structure TransportError where
  className : String
  category : String
  deriving DecidableEq, Repr

/-- An HTTP error: its status, its body where that is JSON, and its `Retry-After`. -/
structure HttpError (F : Type) where
  status : ℤ
  body : Option (Value F)
  retryAfter : Option String

/-- What the provider raises. -/
inductive Failure (F : Type) where
  | auth (message : String)
  | payload (message : String)
  | scope (message : String)
  | exposure (message : String) (positions : List (Position F))
  | http (e : HttpError F)
  | transport (e : TransportError)
  /-- Any other exception, by its class. -/
  | other (className : String)

/-- `isinstance(exc, ReconciliationPayloadError)`. -/
def Failure.isPayload : Failure F → Bool
  | payload _ => true
  | exposure _ _ => true
  | _ => false

/-- `_sanitize_error`. -/
def Failure.sanitize : Failure F → String
  | auth message => "ReconciliationAuthError:" ++ message
  | payload message => "ReconciliationPayloadError:" ++ message
  | scope message => "ReconciliationScopeError:" ++ message
  | exposure message _ => "ReconciliationExposureError:" ++ message
  | http _ => "HTTPError:request_failed_redacted"
  | transport e => e.className ++ ":request_failed_redacted"
  | other className => className ++ ":request_failed_redacted"

/-! ## 3. Symbols -/

/-- The whole text is two to twenty capital letters and digits. -/
def symbolMatches (s : String) : Bool :=
  2 ≤ s.length && s.length ≤ 20 && s.toList.all fun c => c.isUpper || c.isDigit

def controlOrFormat (c : Char) : Bool := lang.category c == "Cc" || lang.category c == "Cf"

/-- `_raw_symbol_is_safe`, of a text. -/
def safeText (s : String) : Bool :=
  s != "" && lang.strip s == s && !s.toList.any (controlOrFormat lang)

/-- `_raw_symbol_is_safe`; the text where it is. -/
def safeSymbol : Value F → Option String
  | .text s => if safeText lang s then some s else none
  | _ => none

/-- A safe symbol outside the grammar: only the exchange can vouch for it. -/
def needsExchangeInfo (raw : Value F) : Bool :=
  (safeSymbol lang raw).any fun s => !symbolMatches (lang.upper s)

/-- `_valid_symbol`. -/
def validSymbol (exchangeSymbols : Option (List String)) (raw : Value F) (source : String) :
    Except (Failure F) String :=
  match safeSymbol lang raw with
  | none => .error (.scope ("invalid_symbol:" ++ source))
  | some s =>
    if symbolMatches (lang.upper s) then .ok (lang.upper s)
    else if exchangeSymbols.any (·.contains s) then .ok s
    else .error (.scope ("invalid_symbol:" ++ source))

/-- `_sanitized_symbol`. -/
def sanitizedSymbol (raw : Value F) : String :=
  "INVALID_SYMBOL_SHA256_" ++ lang.digest (if raw.truthy then raw.str lang.toBuiltins else "")

/-- `_symbol_invalid_reason`. -/
def symbolInvalidReason (exchangeSymbols : Option (List String)) : Value F → String
  | .text s =>
    if s = "" then "empty"
    else if s.toList.any (lang.category · == "Cc") then "control_character"
    else if s.toList.any (lang.category · == "Cf") then "invisible_format_character"
    else if lang.strip s ≠ s then "surrounding_whitespace"
    else if 27 < s.length then "overlong"
    else if !symbolMatches (lang.upper s) then
      if exchangeSymbols.isSome then "not_in_exchange_info" else "exchange_info_unavailable"
    else "invalid_grammar"
  | _ => "not_string"

/-! ## 4. Positions -/

/-- `float(value)`. -/
def toFloat : Value F → Except (Failure F) F
  | .bool b => .ok (FloatNum.ofInt (if b then 1 else 0))
  | .int n => .ok (FloatNum.ofInt n)
  | .float x => .ok x
  | .text s => match lang.parse s with
    | some x => .ok x
    | none => .error (.other "ValueError")
  | _ => .error (.other "TypeError")

/-- `float(row.get(key, 0) or 0)`. -/
def floatField (row : Payload F) (key : String) : Except (Failure F) F :=
  toFloat lang ((Payload.getD row key (.int 0)).or (.int 0))

/-- `str(row.get(key) or default)`. -/
def textField (row : Payload F) (key default : String) : String :=
  ((Payload.get row key).or (.text default)).str lang.toBuiltins

/-- `Decimal(str(row.get("positionAmt")))`. -/
def positionAmount (row : Payload F) : Option DecimalText :=
  lang.decimal ((Payload.get row "positionAmt").str lang.toBuiltins)

/-- `_positions_need_exchange_info`. -/
def positionsNeedExchangeInfo : Value F → Bool
  | .list rows => rows.any fun
    | .mapping row =>
      needsExchangeInfo lang (Payload.get row "symbol") &&
        match positionAmount lang row with
        | some (.finite d) => !d.isZero
        | some .special => true
        | none => false
    | _ => false
  | _ => false

structure Warning where
  category : String
  symbol : String
  reason : String
  deriving DecidableEq, Repr

/-- The exact amount of a row. -/
def exactAmount (row : Payload F) : Option Decimal :=
  match Payload.get row "positionAmt" with
  | .none => none
  | _ =>
    match positionAmount lang row with
    | some (.finite d) => some d
    | _ => none

/-- The symbol of a row that is valid. -/
def positionSymbol (exchangeSymbols : Option (List String)) (row : Payload F) : Option String :=
  (validSymbol lang exchangeSymbols (Payload.get row "symbol") "position").toOption

/-- The position of a row. -/
def readPosition (epsilon : ℚ) (exchangeSymbols : Option (List String)) (row : Payload F)
    (qty : Decimal) : Except (Failure F) (Position F) :=
  match qty.abs with
  | none => .error (.other "Overflow")
  | some size => do
    let entryPrice ← floatField lang row "entryPrice"
    let unrealizedPnl ← floatField lang row "unRealizedProfit"
    return {
      symbol := (positionSymbol lang exchangeSymbols row).getD
        (sanitizedSymbol lang (Payload.get row "symbol"))
      symbolValid := (positionSymbol lang exchangeSymbols row).isSome
      qty := lang.decimalFloat qty
      qtyExact := qty
      active := epsilon < size
      epsilonFiltered := !qty.isZero && size ≤ epsilon
      exactZero := qty.isZero
      entryPrice := entryPrice
      positionSide := textField lang row "positionSide" "BOTH"
      unrealizedPnl := unrealizedPnl }

/-- A round of `_normalize_positions`; `out` are the positions before the row. -/
def normalizePosition (epsilon : ℚ) (exchangeSymbols : Option (List String))
    (out : List (Position F)) (raw : Value F) : Except (Failure F) (Position F × Option Warning) :=
  match raw with
  | .mapping row =>
    match exactAmount lang row with
    | none => .error (.exposure "malformed_position_amount" out)
    | some qty => do
      let position ← readPosition lang epsilon exchangeSymbols row qty
      let reason := symbolInvalidReason lang exchangeSymbols (Payload.get row "symbol")
      if position.symbolValid then return (position, none)
      else if position.exactZero then
        return (position, some ⟨"zero_exposure_invalid_symbol", position.symbol, reason⟩)
      else
        let classification := if position.active then "active_position_invalid_symbol"
          else "epsilon_position_invalid_symbol"
        throw (.exposure (classification ++ ":reason=" ++ reason ++ ":symbol=" ++ position.symbol)
          (out ++ [position]))
  | _ => .error (.payload "position_risk_row_not_object")

/-- The rounds of `_normalize_positions`. -/
def normalizePositionRows (epsilon : ℚ) (exchangeSymbols : Option (List String)) :
    List (Value F) → List (Position F) → List Warning →
      Except (Failure F) (List (Position F) × List Warning)
  | [], out, warnings => .ok (out, warnings)
  | raw :: rows, out, warnings => do
    let (position, warning) ← normalizePosition lang epsilon exchangeSymbols out raw
    normalizePositionRows epsilon exchangeSymbols rows (out ++ [position])
      (warnings ++ warning.toList)

/-- `_normalize_positions`. -/
def normalizePositions (epsilon : ℚ) (exchangeSymbols : Option (List String)) :
    Value F → Except (Failure F) (List (Position F) × List Warning)
  | .list rows => normalizePositionRows lang epsilon exchangeSymbols rows [] []
  | _ => .error (.payload "position_risk_payload_not_list")

/-! ## 5. Orders and fills -/

structure Order (F : Type) where
  orderId : String
  symbol : String
  status : String
  side : String
  positionSide : String
  price : F
  qty : F
  executedQty : F
  createdAt : String

/-- `_OPEN_STATUSES`. -/
def openStatuses : List String := ["NEW", "PARTIALLY_FILLED", "PENDING_NEW"]

/-- `str(row.get("status") or "UNKNOWN").upper()`. -/
def orderStatus (row : Payload F) : String := lang.upper (textField lang row "status" "UNKNOWN")

/-- `_orders_need_exchange_info`. -/
def ordersNeedExchangeInfo : Value F → Bool
  | .list rows => rows.any fun
    | .mapping row =>
      openStatuses.contains (lang.upper (textField lang row "status" "")) &&
        needsExchangeInfo lang (Payload.get row "symbol")
    | _ => false
  | _ => false

/-- A round of `_normalize_orders`; `none` where the row is skipped. -/
def normalizeOrder (exchangeSymbols : Option (List String)) :
    Value F → Except (Failure F) (Option (Order F))
  | .mapping row =>
    if !openStatuses.contains (orderStatus lang row) then .ok none
    else do
      let symbol ← validSymbol lang exchangeSymbols (Payload.get row "symbol") "order"
      let price ← floatField lang row "price"
      let qty ← floatField lang row "origQty"
      let executedQty ← floatField lang row "executedQty"
      match lang.timestamp ((Payload.getD row "time" (.int 0)).or (.int 0)) with
      | none => throw (.other "ValueError")
      | some createdAt =>
        return some {
          orderId := textField lang row "orderId" ""
          symbol := symbol
          status := orderStatus lang row
          side := textField lang row "side" ""
          positionSide := textField lang row "positionSide" "BOTH"
          price := price
          qty := qty
          executedQty := executedQty
          createdAt := createdAt }
  | _ => .error (.payload "open_orders_row_not_object")

/-- The rounds of `_normalize_orders`. -/
def normalizeOrderRows (exchangeSymbols : Option (List String)) :
    List (Value F) → Except (Failure F) (List (Order F))
  | [] => .ok []
  | raw :: rows => do
    let order ← normalizeOrder lang exchangeSymbols raw
    let orders ← normalizeOrderRows exchangeSymbols rows
    return order.toList ++ orders

/-- `_normalize_orders`. -/
def normalizeOrders (exchangeSymbols : Option (List String)) :
    Value F → Except (Failure F) (List (Order F))
  | .list rows => normalizeOrderRows lang exchangeSymbols rows
  | _ => .error (.payload "open_orders_payload_not_list")

structure Fill (F : Type) where
  tradeId : String
  orderId : String
  symbol : String
  side : String
  positionSide : String
  qty : F
  price : F
  realizedPnl : F
  time : ℤ

def isFalse : Value F → Bool
  | .bool false => true
  | _ => false

def normalizeFill : Value F → Except (Failure F) (Fill F)
  | .mapping row => do
    let qty ← floatField lang row "qty"
    let price ← floatField lang row "price"
    let realizedPnl ← floatField lang row "realizedPnl"
    match lang.int ((Payload.getD row "time" (.int 0)).or (.int 0)) with
    | none => throw (.other "ValueError")
    | some time =>
      return {
        tradeId := textField lang row "id" ""
        orderId := textField lang row "orderId" ""
        symbol := lang.upper (textField lang row "symbol" "")
        side := if isFalse (Payload.get row "buyer") then "SELL" else "BUY"
        positionSide := textField lang row "positionSide" "BOTH"
        qty := qty
        price := price
        realizedPnl := realizedPnl
        time := time }
  | _ => .error (.payload "user_trades_row_not_object")

def isMapping : Value F → Bool
  | .mapping _ => true
  | _ => false

/-- `_normalize_fills`. -/
def normalizeFills : Value F → Except (Failure F) (List (Fill F))
  | .list rows =>
    if rows.all isMapping then rows.mapM (normalizeFill lang)
    else .error (.payload "user_trades_row_not_object")
  | _ => .error (.payload "user_trades_payload_not_list")

/-- `_exchange_info_symbols`. -/
def exchangeInfoSymbols : Value F → Except (Failure F) (List String)
  | .mapping info =>
    match Payload.get info "symbols" with
    | .list rows => rows.mapM fun
      | .mapping row =>
        match safeSymbol lang (Payload.get row "symbol") with
        | some s => .ok s
        | none => .error (.payload "exchange_info_symbol_invalid")
      | _ => .error (.payload "exchange_info_symbol_invalid")
    | _ => .error (.payload "exchange_info_payload_invalid")
  | _ => .error (.payload "exchange_info_payload_invalid")

/-- The symbols of `_symbols_for_fills`, of tracked symbols already read. -/
def selectedSymbols (tracked : List String) (orders : List (Order F))
    (positions : List (Position F)) : List String :=
  sortedSet (tracked ++ orders.map Order.symbol ++
    (positions.filter Position.active).map Position.symbol)

/-- The reasons for which a symbol is selected, sorted. -/
def symbolSources (tracked : List String) (orders : List (Order F))
    (positions : List (Position F)) (symbol : String) : List String :=
  (if positions.any fun p => p.active && p.symbol == symbol then ["active_position"] else []) ++
    (if orders.any fun o => o.symbol == symbol then ["open_order"] else []) ++
    (if tracked.contains symbol then ["tracked"] else [])

/-! ## 6. What is read -/

/-- A position shows a row: its symbol, its exact quantity, and whether the rounded magnitude is
    above epsilon. -/
structure Shows (epsilon : ℚ) (exchangeSymbols : Option (List String)) (raw : Value F)
    (p : Position F) : Prop where
  row : ∃ row, raw = .mapping row ∧ exactAmount lang row = some p.qtyExact ∧
    p.symbol = (positionSymbol lang exchangeSymbols row).getD
      (sanitizedSymbol lang (Payload.get row "symbol"))
  active : ∃ size, p.qtyExact.abs = some size ∧ (p.active = true ↔ epsilon < size)

theorem readPosition_ok {epsilon : ℚ} {exchangeSymbols : Option (List String)} {row : Payload F}
    {qty : Decimal} {p : Position F}
    (h : readPosition lang epsilon exchangeSymbols row qty = .ok p) :
    p.qtyExact = qty ∧
      p.symbol = (positionSymbol lang exchangeSymbols row).getD
        (sanitizedSymbol lang (Payload.get row "symbol")) ∧
      ∃ size, qty.abs = some size ∧ (p.active = true ↔ epsilon < size) := by
  unfold readPosition at h
  split at h
  · exact nomatch h
  · rename_i size hsize
    obtain ⟨entryPrice, -, h⟩ := ok_of_bind h
    obtain ⟨unrealizedPnl, -, h⟩ := ok_of_bind h
    cases h
    exact ⟨rfl, rfl, size, hsize, by simp⟩

theorem normalizePosition_ok {epsilon : ℚ} {exchangeSymbols : Option (List String)}
    {out : List (Position F)} {raw : Value F} {p : Position F} {warning : Option Warning}
    (h : normalizePosition lang epsilon exchangeSymbols out raw = .ok (p, warning)) :
    Shows lang epsilon exchangeSymbols raw p := by
  unfold normalizePosition at h
  split at h
  · rename_i row
    split at h
    · exact nomatch h
    · rename_i qty hqty
      obtain ⟨q, hq, h⟩ := ok_of_bind h
      have hsame : q = p := by
        split at h
        · exact congrArg Prod.fst (Except.ok.inj h)
        · split at h
          · exact congrArg Prod.fst (Except.ok.inj h)
          · exact nomatch h
      subst hsame
      obtain ⟨hexact, hsymbol, hactive⟩ := readPosition_ok lang hq
      rw [← hexact] at hqty hactive
      exact ⟨⟨row, rfl, hqty, hsymbol⟩, hactive⟩
  · exact nomatch h

theorem normalizePositionRows_ok {epsilon : ℚ} {exchangeSymbols : Option (List String)}
    {rows : List (Value F)} {out positions : List (Position F)} {before warnings : List Warning}
    (h : normalizePositionRows lang epsilon exchangeSymbols rows out before =
      .ok (positions, warnings)) :
    ∃ read, positions = out ++ read ∧ List.Forall₂ (Shows lang epsilon exchangeSymbols)
      rows read := by
  induction rows generalizing out before with
  | nil =>
    cases h
    exact ⟨[], (List.append_nil _).symm, .nil⟩
  | cons raw rows ih =>
    rw [normalizePositionRows] at h
    obtain ⟨⟨p, warning⟩, hp, h⟩ := ok_of_bind h
    obtain ⟨read, hpositions, hread⟩ := ih h
    refine ⟨p :: read, ?_, .cons (normalizePosition_ok lang hp) hread⟩
    rw [hpositions, List.append_assoc, List.singleton_append]

/-- Every row has its position. -/
theorem normalizePositions_ok {epsilon : ℚ} {exchangeSymbols : Option (List String)}
    {payload : Value F} {positions : List (Position F)} {warnings : List Warning}
    (h : normalizePositions lang epsilon exchangeSymbols payload = .ok (positions, warnings)) :
    ∃ rows, payload = .list rows ∧
      List.Forall₂ (Shows lang epsilon exchangeSymbols) rows positions := by
  unfold normalizePositions at h
  split at h
  · rename_i rows
    obtain ⟨read, hpositions, hread⟩ := normalizePositionRows_ok lang h
    rw [List.nil_append] at hpositions
    exact ⟨rows, rfl, hpositions ▸ hread⟩
  · exact nomatch h

/-- An order is the order of a row. -/
structure OrderOf (exchangeSymbols : Option (List String)) (row : Payload F) (o : Order F) :
    Prop where
  status : o.status = orderStatus lang row
  orderId : o.orderId = textField lang row "orderId" ""
  symbol : validSymbol lang exchangeSymbols (Payload.get row "symbol") "order" = .ok o.symbol

theorem normalizeOrder_some {exchangeSymbols : Option (List String)} {raw : Value F} {o : Order F}
    (h : normalizeOrder lang exchangeSymbols raw = .ok (some o)) :
    ∃ row, raw = .mapping row ∧ orderStatus lang row ∈ openStatuses ∧
      OrderOf lang exchangeSymbols row o := by
  unfold normalizeOrder at h
  split at h
  · rename_i row
    split at h
    · exact nomatch h
    · rename_i hopen
      obtain ⟨symbol, hsymbol, h⟩ := ok_of_bind h
      obtain ⟨price, -, h⟩ := ok_of_bind h
      obtain ⟨qty, -, h⟩ := ok_of_bind h
      obtain ⟨executedQty, -, h⟩ := ok_of_bind h
      split at h
      · exact nomatch h
      · cases h
        exact ⟨row, rfl, by simpa using hopen, rfl, rfl, hsymbol⟩
  · exact nomatch h

/-- A row with an open status is not skipped. -/
theorem normalizeOrder_none {exchangeSymbols : Option (List String)} {row : Payload F}
    (h : normalizeOrder lang exchangeSymbols (.mapping row) = .ok none) :
    orderStatus lang row ∉ openStatuses := by
  simp only [normalizeOrder] at h
  split at h
  · rename_i hopen
    simpa using hopen
  · obtain ⟨symbol, -, h⟩ := ok_of_bind h
    obtain ⟨price, -, h⟩ := ok_of_bind h
    obtain ⟨qty, -, h⟩ := ok_of_bind h
    obtain ⟨executedQty, -, h⟩ := ok_of_bind h
    split at h
    · exact nomatch h
    · exact nomatch h

theorem normalizeOrderRows_ok {exchangeSymbols : Option (List String)} {rows : List (Value F)}
    {orders : List (Order F)} (h : normalizeOrderRows lang exchangeSymbols rows = .ok orders) :
    (∀ o ∈ orders, ∃ raw ∈ rows, normalizeOrder lang exchangeSymbols raw = .ok (some o)) ∧
      ∀ raw ∈ rows, normalizeOrder lang exchangeSymbols raw = .ok none ∨
        ∃ o ∈ orders, normalizeOrder lang exchangeSymbols raw = .ok (some o) := by
  induction rows generalizing orders with
  | nil =>
    cases h
    exact ⟨fun _ ho => absurd ho List.not_mem_nil, fun _ hraw => absurd hraw List.not_mem_nil⟩
  | cons raw rows ih =>
    rw [normalizeOrderRows] at h
    obtain ⟨order, horder, h⟩ := ok_of_bind h
    obtain ⟨rest, hrest, h⟩ := ok_of_bind h
    cases h
    obtain ⟨hfrom, hall⟩ := ih hrest
    constructor
    · intro o ho
      rcases List.mem_append.mp ho with ho | ho
      · rw [Option.mem_toList] at ho
        cases ho
        exact ⟨raw, List.mem_cons_self, horder⟩
      · obtain ⟨raw', hraw', ho⟩ := hfrom o ho
        exact ⟨raw', List.mem_cons_of_mem _ hraw', ho⟩
    · intro raw' hraw'
      rcases List.mem_cons.mp hraw' with rfl | hraw'
      · cases order with
        | none => exact .inl horder
        | some o =>
          exact .inr ⟨o, List.mem_append.mpr (.inl (Option.mem_toList.mpr rfl)), horder⟩
      · rcases hall raw' hraw' with hnone | ⟨o, ho, hsome⟩
        · exact .inl hnone
        · exact .inr ⟨o, List.mem_append_right _ ho, hsome⟩

/-- Every order is of a row with an open status, and every row with one has its order. -/
theorem normalizeOrders_ok {exchangeSymbols : Option (List String)} {payload : Value F}
    {orders : List (Order F)} (h : normalizeOrders lang exchangeSymbols payload = .ok orders) :
    ∃ rows, payload = .list rows ∧
      (∀ raw ∈ rows, ∃ row, raw = .mapping row ∧
        (orderStatus lang row ∈ openStatuses → ∃ o ∈ orders, OrderOf lang exchangeSymbols row o)) ∧
      ∀ o ∈ orders, o.status ∈ openStatuses := by
  unfold normalizeOrders at h
  split at h
  · rename_i rows
    obtain ⟨hfrom, hall⟩ := normalizeOrderRows_ok lang h
    refine ⟨rows, rfl, fun raw hraw => ?_, fun o ho => ?_⟩
    · rcases hall raw hraw with hnone | ⟨o, ho, hsome⟩
      · cases raw with
        | mapping row =>
          exact ⟨row, rfl, fun hopen => absurd hopen (normalizeOrder_none lang hnone)⟩
        | none => exact nomatch hnone
        | bool _ => exact nomatch hnone
        | int _ => exact nomatch hnone
        | float _ => exact nomatch hnone
        | text _ => exact nomatch hnone
        | list _ => exact nomatch hnone
      · obtain ⟨row, hrow, -, hof⟩ := normalizeOrder_some lang hsome
        exact ⟨row, hrow, fun _ => ⟨o, ho, hof⟩⟩
    · obtain ⟨raw, -, hsome⟩ := hfrom o ho
      obtain ⟨row, -, hopen, hof⟩ := normalizeOrder_some lang hsome
      rw [hof.status]
      exact hopen
  · exact nomatch h

omit [FloatNum F] in
/-- The symbols whose fills are needed. -/
theorem mem_selectedSymbols {tracked : List String} {orders : List (Order F)}
    {positions : List (Position F)} {symbol : String} :
    symbol ∈ selectedSymbols tracked orders positions ↔
      symbol ∈ tracked ∨ (∃ o ∈ orders, o.symbol = symbol) ∨
        ∃ p ∈ positions, p.active = true ∧ p.symbol = symbol := by
  rw [selectedSymbols, mem_sortedSet, List.mem_append, List.mem_append, List.mem_map, List.mem_map,
    or_assoc]
  simp only [List.mem_filter, and_assoc]

end AlphaForge.Exchange
