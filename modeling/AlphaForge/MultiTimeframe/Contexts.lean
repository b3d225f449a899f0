/-
  File:      AlphaForge/MultiTimeframe/Contexts.lean
  Subject:   The three layers of `multi_timeframe.py`: the closed candles of a layer, and the
             regime, setup and execution contexts built from them.

  A candle row holds its times as integers and its prices as arbitrary values, which `float` may
  refuse. Strengths, qualities and volatilities go to diagnostics only and are left out.

  * `bounded` -- the rows closed at the decision, in the order of their opening.
  * `readOhlc` -- what `_valid_ohlc` asks of a row.
  * `buildRegimeContext`, `buildSetupContext`, `buildExecutionContext`.
-/
import AlphaForge.Lib.Differences
import AlphaForge.Lib.Payload

namespace AlphaForge.MultiTimeframe

open AlphaForge.Lib

/-! ## 1. Candles -/

/-- A row of a layer. `closeTs` is `none` where `close_ts` is no integer. -/
structure Row (F : Type) where
  openTs : ℤ
  closeTs : Option ℤ
  /-- `none` where the row has no `open`. -/
  opening : Option (Value F)
  high : Value F
  low : Value F
  close : Value F

structure Ohlc (F : Type) where
  high : F
  low : F
  close : F

inductive Direction where
  | long
  | short
  | neutral
  | unknown
  /-- `"NONE"`, the setup's name for a neutral direction. -/
  | absent
  deriving DecidableEq, Repr

/-- `direction in {"LONG", "SHORT"}`. -/
def Direction.trades : Direction → Bool
  | long | short => true
  | _ => false

variable {F : Type} [DifferenceNum F] (py : Builtins F)

/-- `float(value)`; `none` where it raises. -/
def asFloat : Value F → Option F
  | .none => none
  | .bool b => some (FloatNum.ofInt (if b then 1 else 0))
  | .int n => some (FloatNum.ofInt n)
  | .float x => some x
  | .text s => py.parse s
  | .list _ => none
  | .mapping _ => none

/-- `math.isfinite(value) and value > 0.0`. -/
def positive (x : F) : Bool := FloatNum.isFinite x && decide ((FloatNum.ofInt 0 : F) < x)

/-- The number of a value that is an `int` or a `float`, not a `bool`, finite and positive. -/
def positiveNumber : Value F → Option F
  | .int n => some (FloatNum.ofInt n : F) |>.filter positive
  | .float x => some x |>.filter positive
  | _ => none

/-- The prices of a row that `_valid_ohlc` accepts. -/
def readOhlc (c : Row F) : Option (Ohlc F) := do
  let high ← asFloat py c.high
  let low ← asFloat py c.low
  let close ← asFloat py c.close
  let openings ← c.opening.toList.mapM (asFloat py)
  if (high :: low :: close :: openings).all positive && !decide (high < low) then
    some ⟨high, low, close⟩
  else none

/-- `_valid_ohlc`. -/
def validOhlc (rows : List (Row F)) (minimumRows : ℕ) : Bool :=
  minimumRows ≤ rows.length && rows.all fun c => (readOhlc py c).isSome

/-- The prices of rows that are valid. -/
def prices (rows : List (Row F)) : List (Ohlc F) := rows.filterMap (readOhlc py)

/-- The rows of a layer that are closed at the decision, sorted by `open_ts`. -/
def bounded (rows : List (Row F)) (decisionTsMs : ℤ) : List (Row F) :=
  (rows.filter fun c => c.closeTs.any (· ≤ decisionTsMs)).insertionSort fun a b =>
    a.openTs ≤ b.openTs

/-- `xs[-n:]`. -/
def lastOf {α : Type} (n : ℕ) (xs : List α) : List α := xs.drop (xs.length - n)

-- `total` is the `sum` of the language.
variable (total : List F → F)

/-- The mean of the last closes. -/
def movingAverage (n : ℕ) (closes : List F) : F := total (lastOf n closes) / FloatNum.ofInt n

/-- `_direction`, of prices already read. -/
def directionOf (candles : List (Ohlc F)) (fast slow : ℕ) (neutralThreshold : F) : Direction :=
  if candles.length < slow then .unknown
  else
    let closes := candles.map Ohlc.close
    let fastMa := movingAverage total fast closes
    let slowMa := movingAverage total slow closes
    let delta : F := if FloatNum.feq slowMa (FloatNum.ofInt 0) then FloatNum.ofInt 0
      else (fastMa - slowMa) / slowMa
    if FloatNum.abs delta < neutralThreshold then .neutral
    else if (FloatNum.ofInt 0 : F) < delta then .long
    else .short

/-- `int(candles[-1]["close_ts"])`, if there are candles. -/
def lastClosedMs (rows : List (Row F)) : Option ℤ := rows.getLast?.bind Row.closeTs

/-! ## 2. The regime -/

structure RegimeContext where
  timeframe : String
  direction : Direction
  lastClosedCandleMs : Option ℤ
  /-- `evidence_status == "COMPLETE"`. -/
  complete : Bool
  deriving DecidableEq, Repr

/-- `build_regime_context`. -/
def buildRegimeContext (rows : List (Row F)) (timeframe : String) (threshold : F) : RegimeContext :=
  let direction := if validOhlc py rows 20 then directionOf total (prices py rows) 8 20 threshold
    else .unknown
  { timeframe := timeframe
    direction := direction
    lastClosedCandleMs := lastClosedMs rows
    complete := direction.trades }

/-! ## 3. The setup -/

inductive SetupPhase where
  | continuation
  | pullback
  | reentryReady
  | noSetup
  | overextended
  | invalid
  deriving DecidableEq, Repr

/-- `phase in REGIME_GUIDED_SETUP_PHASES`. -/
def SetupPhase.ready : SetupPhase → Bool
  | continuation | pullback | reentryReady => true
  | _ => false

/-- `structural_stop` and `structural_target`. -/
structure Structure (F : Type) where
  stop : F
  target : F

structure SetupContext (F : Type) where
  timeframe : String
  /-- The observed direction. -/
  direction : Direction
  /-- Set in the guided generation only. -/
  phase : Option SetupPhase
  tradeSide : Option Direction
  /-- `last["low"]` and `last["high"]`. -/
  entryZone : Option (Value F × Value F)
  structural : Option (Structure F)
  lastClosedCandleMs : Option ℤ
  complete : Bool

/-- `min` of a sequence. -/
def minimum : List F → Option F
  | [] => none
  | x :: xs => some (xs.foldl (fun best y => if y < best then y else best) x)

/-- `max` of a sequence. -/
def maximum : List F → Option F
  | [] => none
  | x :: xs => some (xs.foldl (fun best y => if best < y then y else best) x)

/-- `derive_setup_structure_with_diagnostics`, of a window already read. -/
def deriveSetupStructure (window : List (Ohlc F)) (side : Direction) : Option (Structure F) :=
  if window.length < 12 then none
  else
    match side with
    | .long => do
      return ⟨← minimum (window.map Ohlc.low), ← maximum (window.map Ohlc.high)⟩
    | .short => do
      return ⟨← maximum (window.map Ohlc.high), ← minimum (window.map Ohlc.low)⟩
    | _ => none

/-- The range of the window is more than 8% of the last close. -/
def isOverextended (window : List (Ohlc F)) : Bool :=
  match maximum (window.map Ohlc.high), minimum (window.map Ohlc.low), window.getLast? with
  | some high, some low, some last => (0.08 : F) < (high - low) / last.close
  | _, _, _ => false

/-- `direction if direction != "NEUTRAL" else "NONE"`. -/
def Direction.observed : Direction → Direction
  | neutral => absent
  | d => d

/-- The phase that the guided generation reads off. -/
def setupPhase (evidence : Bool) (window : List (Ohlc F)) (observed recent regime : Direction) :
    SetupPhase :=
  if !evidence then .invalid
  else if isOverextended window then .overextended
  else if observed = .absent then .noSetup
  else if observed = regime then .continuation
  else if recent = regime then .reentryReady
  else .pullback

/-- `build_setup_context`; `regime` is `none` where the generation is not guided. -/
def buildSetupContext (rows : List (Row F)) (timeframe : String) (regime : Option Direction)
    (threshold : F) : SetupContext F :=
  let valid := validOhlc py rows 12
  let candles := prices py rows
  let direction := if valid then directionOf total candles 5 12 threshold else .unknown
  let recent := if valid then lastOf 12 candles else []
  let zone := if valid then rows.getLast?.map fun last => (last.low, last.high) else none
  match regime with
  | none =>
    { timeframe := timeframe
      direction := direction.observed
      phase := none
      tradeSide := none
      entryZone := zone
      structural := deriveSetupStructure recent direction
      lastClosedCandleMs := lastClosedMs rows
      complete := direction.trades && 12 ≤ rows.length && !isOverextended recent }
  | some side =>
    let recentDirection := if valid then directionOf total candles 2 5 threshold else .unknown
    let evidence := valid && direction != .unknown && side.trades
    { timeframe := timeframe
      direction := direction.observed
      phase := some (setupPhase evidence recent direction.observed recentDirection side)
      tradeSide := if side.trades then some side else none
      entryZone := zone
      structural := deriveSetupStructure recent side
      lastClosedCandleMs := lastClosedMs rows
      complete := evidence }

/-! ## 4. The execution -/

structure ExecutionContext where
  timeframe : String
  direction : Direction
  /-- `trigger` is set. -/
  trigger : Bool
  confirmedForSide : Bool
  lastClosedCandleMs : Option ℤ
  complete : Bool
  deriving DecidableEq, Repr

/-- A number, not a `bool`, finite and not negative. -/
def nonNegativeNumber : Value F → Bool
  | .int n => FloatNum.isFinite (FloatNum.ofInt n : F) && (FloatNum.ofInt 0 : F) ≤ FloatNum.ofInt n
  | .float x => FloatNum.isFinite x && (FloatNum.ofInt 0 : F) ≤ x
  | _ => false

/-- The market evidence that the execution layer requires. -/
def marketComplete (market : Payload F) : Bool :=
  ["spread_pct", "expected_slippage_pct", "market_data_latency_ms", "liquidity_score"].all
    fun key => nonNegativeNumber (market.get key)

/-- `build_execution_context`. -/
def buildExecutionContext (rows : List (Row F)) (timeframe : String) (market : Payload F)
    (tradeSide : Option Direction) (threshold : F) : ExecutionContext :=
  let valid := validOhlc py rows 5
  let direction := if valid then directionOf total (prices py rows) 2 5 threshold else .unknown
  let trigger := direction.trades && 5 ≤ rows.length
  { timeframe := timeframe
    direction := direction
    trigger := trigger
    confirmedForSide := trigger && tradeSide.all (· = direction)
    lastClosedCandleMs := if valid then lastClosedMs rows else none
    complete := valid && direction != .unknown && marketComplete market }

end AlphaForge.MultiTimeframe
