import Mathlib

/-!
# Shared vocabulary of the bridge model

The Rust crates modelled here (`omnisette`, `icloud-auth` and the `rustpushgo` glue)
share a few notions that this module fixes once:

* `Bytes` is a `Vec<u8>`, and `StringMap α` a `HashMap<String, α>`: a finite map with
  one value per key, modelled by Mathlib's `AList`. No modelled function depends on the
  iteration order of a `HashMap`.
* `SystemTime` is the Unix `timespec`: nanoseconds since `UNIX_EPOCH` whose whole
  seconds fit an `i64`. Adding a `Duration` past that bound panics, as `std` does.
* A call either returns (`Ok` or `Err`, both values of the Rust function) or panics. A
  method on `&mut self` is an `EStateM (Fault ε) σ`: the state it has written survives
  an early `Err` return and a panic alike, as the Rust object does.
-/

namespace IMessageBridge

/-- A `Vec<u8>`. -/
abbrev Bytes := List UInt8

/-- A `HashMap<String, α>`. -/
abbrev StringMap (α : Type) := AList (fun _ : String => α)

namespace StringMap

variable {α : Type}

/-- `collect()` of key/value pairs into a `HashMap`: a later pair overwrites an earlier
one with the same key. -/
def ofList (pairs : List (String × α)) : StringMap α :=
  pairs.foldl (fun map pair => map.insert pair.1 pair.2) ∅

/-- The value of the last pair that carries `key`. -/
def lastValue (key : String) : List (String × α) → Option α
  | [] => none
  | pair :: rest => (lastValue key rest).or (if pair.1 = key then some pair.2 else none)

private theorem lookup_insert_or (key : String) (pair : String × α) (map : StringMap α) :
    (map.insert pair.1 pair.2).lookup key =
      (if pair.1 = key then some pair.2 else none).or (map.lookup key) := by
  by_cases same : pair.1 = key
  · subst same
    simp [AList.lookup_insert]
  · simp [same, AList.lookup_insert_ne (Ne.symm same)]

private theorem lookup_foldl_insert (key : String) :
    ∀ (pairs : List (String × α)) (start : StringMap α),
      (pairs.foldl (fun map pair => map.insert pair.1 pair.2) start).lookup key =
        (lastValue key pairs).or (start.lookup key)
  | [], start => rfl
  | pair :: rest, start => by
      rw [List.foldl_cons, lookup_foldl_insert key rest, lookup_insert_or, lastValue,
        Option.or_assoc]

/-- A collected map holds, at each key, the value of the last pair with that key. -/
@[simp]
theorem lookup_ofList (key : String) (pairs : List (String × α)) :
    (ofList pairs).lookup key = lastValue key pairs := by
  rw [ofList, lookup_foldl_insert]
  cases lastValue key pairs <;> rfl

/-- Reading every value of a list of pairs through `f` commutes with taking the last. -/
@[simp]
theorem lastValue_map {β : Type} (f : α → β) (key : String) :
    ∀ pairs : List (String × α),
      lastValue key (pairs.map fun pair => (pair.1, f pair.2)) = (lastValue key pairs).map f
  | [] => rfl
  | pair :: rest => by
      simp only [List.map_cons, lastValue, lastValue_map f key rest]
      cases lastValue key rest <;> split <;> rfl

end StringMap

/-! ## Time -/

/-- Nanoseconds in one second. -/
def nanosPerSecond : Nat := 1000000000

/-- The `timespec` bound: the whole seconds since the epoch must fit an `i64`. -/
def timeBound : Int := 2 ^ 63 * nanosPerSecond

/-- `std::time::Duration`, in nanoseconds. Every duration the code builds
(`from_secs` and `from_millis` of a `u64`) is below `Duration::MAX`. -/
structure Duration where
  nanos : Nat
  deriving DecidableEq, Repr

namespace Duration

/-- `Duration::from_secs`. -/
def fromSecs (secs : Nat) : Duration := ⟨secs * nanosPerSecond⟩

/-- `Duration::from_millis`. -/
def fromMillis (millis : Nat) : Duration := ⟨millis * 1000000⟩

end Duration

/-- `std::time::SystemTime` on Unix, as nanoseconds since `UNIX_EPOCH`; the bound is
the `i64` of `timespec.tv_sec`, so no value outside it can be built. -/
structure SystemTime where
  sinceEpoch : Int
  bounded : -timeBound ≤ sinceEpoch ∧ sinceEpoch < timeBound
  deriving DecidableEq

namespace SystemTime

/-- `SystemTime::UNIX_EPOCH`. -/
def unixEpoch : SystemTime := ⟨0, by decide⟩

/-- `SystemTime::duration_since`: `Err` when `earlier` is later than `self`. -/
def durationSince (self earlier : SystemTime) : Option Duration :=
  if earlier.sinceEpoch ≤ self.sinceEpoch then
    some ⟨(self.sinceEpoch - earlier.sinceEpoch).toNat⟩
  else none

end SystemTime

/-! ## Returns and panics -/

/-- A line of this repository. -/
structure Site where
  file : String
  line : Nat
  deriving DecidableEq, Repr

/-- A panic: the line of this repository whose operation panicked, and its message. -/
structure Panic where
  site : Site
  message : String
  deriving DecidableEq, Repr

/-- The two ways a call can end without returning `Ok`: an `Err` value of the
function's error type, or a panic. -/
inductive Fault (ε : Type) where
  | error (error : ε)
  | panic (panic : Panic)
  deriving DecidableEq, Repr

/-- The message of `Option::unwrap` on `None`. -/
def unwrapNone : String := "called `Option::unwrap()` on a `None` value"

/-- The message of `Result::unwrap` on `Err`. -/
def unwrapErr : String := "called `Result::unwrap()` on an `Err` value"

/-- `Option::expect` (or `unwrap`) at a source location. -/
def expectAt {α : Type} (site : Site) (message : String) : Option α → Except Panic α
  | some value => .ok value
  | none => .error ⟨site, message⟩

@[simp]
theorem expectAt_eq_ok {α : Type} {site : Site} {message : String} {value : Option α}
    {result : α} : expectAt site message value = .ok result ↔ value = some result := by
  cases value <;> simp [expectAt]

/-- `SystemTime + Duration` at `site`, which panics past the `timespec` bound. -/
def SystemTime.add (site : Site) (self : SystemTime) (duration : Duration) :
    Except Panic SystemTime :=
  if bound : self.sinceEpoch + duration.nanos < timeBound then
    .ok ⟨self.sinceEpoch + duration.nanos, by
      constructor
      · have := self.bounded.1
        omega
      · exact bound⟩
  else .error ⟨site, "overflow when adding duration to instant"⟩

@[simp]
theorem SystemTime.add_sinceEpoch {site : Site} {self : SystemTime} {duration : Duration}
    {result : SystemTime} (added : self.add site duration = .ok result) :
    result.sinceEpoch = self.sinceEpoch + duration.nanos := by
  unfold SystemTime.add at added
  split at added
  · cases added
    rfl
  · cases added

theorem Except.bind_eq_ok {ε α β : Type} {step : Except ε α} {rest : α → Except ε β}
    {result : β} :
    step >>= rest = .ok result ↔ ∃ value, step = .ok value ∧ rest value = .ok result := by
  cases step <;> simp [bind, Except.bind]

theorem Except.map_eq_ok {ε α β : Type} {f : α → β} {step : Except ε α} {result : β} :
    step.map f = .ok result ↔ ∃ value, step = .ok value ∧ f value = result := by
  cases step <;> simp [Except.map]

namespace Fault

variable {ε σ α : Type}

/-- A panic-only step inside a function whose error type is `ε`. -/
def ofPanic : Except Panic α → Except (Fault ε) α
  | .ok value => .ok value
  | .error raised => .error (.panic raised)

/-- The `?` operator on a `Result<α, ε>`. -/
def ofResult : Except ε α → Except (Fault ε) α
  | .ok value => .ok value
  | .error returned => .error (.error returned)

/-- Run a step that reads no state. -/
def lift : Except (Fault ε) α → EStateM (Fault ε) σ α
  | .ok value => fun state => .ok value state
  | .error fault => fun state => .error fault state

@[simp]
theorem ofPanic_ne_error {step : Except Panic α} {error : ε} :
    ofPanic step ≠ .error (.error error) := by
  cases step <;> simp [ofPanic]

theorem ofPanic_eq_ok {step : Except Panic α} {result : α} :
    (ofPanic step : Except (Fault ε) α) = .ok result ↔ step = .ok result := by
  cases step <;> simp [ofPanic]

theorem ofResult_eq_ok {step : Except ε α} {result : α} :
    ofResult step = .ok result ↔ step = .ok result := by
  cases step <;> simp [ofResult]

/-- `step` does not panic at `site`. -/
def Spares (site : Site) (step : Except (Fault ε) α) : Prop :=
  ∀ message, step ≠ .error (.panic ⟨site, message⟩)

theorem spares_pure {site : Site} (value : α) : Spares site (pure value : Except (Fault ε) α) :=
  fun _ => by simp [pure, Except.pure]

theorem spares_ofResult {site : Site} (step : Except ε α) : Spares site (ofResult step) :=
  fun _ => by cases step <;> simp [ofResult]

theorem spares_throw {site : Site} (error : ε) :
    Spares site (throw (.error error) : Except (Fault ε) α) :=
  fun _ => by simp [throw, throwThe, MonadExceptOf.throw, Except.error.injEq]

theorem spares_ofPanic {site : Site} {step : Except Panic α}
    (elsewhere : ∀ raised, step = .error raised → raised.site ≠ site) :
    Spares site (ofPanic step : Except (Fault ε) α) := fun message => by
  cases step with
  | error raised =>
      simp only [ofPanic, ne_eq, Except.error.injEq, panic.injEq]
      rintro rfl
      exact elsewhere _ rfl rfl
  | ok value => simp [ofPanic]

theorem spares_expectAt {site other : Site} (message : String) (value : Option α)
    (different : other ≠ site) :
    Spares site (ofPanic (expectAt other message value) : Except (Fault ε) α) :=
  spares_ofPanic fun raised failed => by
    cases value <;> simp only [expectAt, reduceCtorEq, Except.error.injEq] at failed
    rw [← failed]
    exact different

theorem spares_bind {β : Type} {site : Site} {first : Except (Fault ε) α}
    {rest : α → Except (Fault ε) β} (sparesFirst : Spares site first)
    (sparesRest : ∀ value, Spares site (rest value)) : Spares site (first >>= rest) :=
  fun message => by
    show first.bind rest ≠ _
    cases first with
    | error fault => simpa [Except.bind] using sparesFirst message
    | ok value => simpa [Except.bind] using sparesRest value message

/-- A method on `&self`: it reads the state and writes nothing. -/
def reading (step : σ → Except (Fault ε) α) : EStateM (Fault ε) σ α := fun state =>
  match step state with
  | .ok value => .ok value state
  | .error fault => .error fault state

theorem reading_bind_run {β : Type} (step : σ → Except (Fault ε) α)
    (rest : α → EStateM (Fault ε) σ β) (state : σ) :
    (reading step >>= rest).run state = match step state with
      | .ok value => (rest value).run state
      | .error fault => .error fault state := by
  simp only [reading, EStateM.run, bind, EStateM.bind]
  cases step state <;> rfl

theorem lift_bind_run {β : Type} (step : Except (Fault ε) α)
    (rest : α → EStateM (Fault ε) σ β) (state : σ) :
    (lift step >>= rest).run state = match step with
      | .ok value => (rest value).run state
      | .error fault => .error fault state := by
  cases step <;> rfl

@[simp]
theorem lift_run (step : Except (Fault ε) α) (state : σ) :
    (lift step).run state = match step with
      | .ok value => .ok value state
      | .error fault => .error fault state := by
  cases step <;> rfl

theorem reading_run (step : σ → Except (Fault ε) α) (state : σ) :
    (reading step).run state = match step state with
      | .ok value => .ok value state
      | .error fault => .error fault state := rfl

theorem reading_run_eq_ok {step : σ → Except (Fault ε) α} {state after : σ} {value : α} :
    (reading step).run state = .ok value after ↔ after = state ∧ step state = .ok value := by
  rw [reading_run]
  cases step state with
  | ok result =>
      simp only [EStateM.Result.ok.injEq, Except.ok.injEq]
      constructor <;> rintro ⟨rfl, rfl⟩ <;> exact ⟨rfl, rfl⟩
  | error fault => simp

theorem map_run {β : Type} (f : α → β) (call : EStateM (Fault ε) σ α) (state : σ) :
    (f <$> call).run state = match call.run state with
      | .ok value after => .ok (f value) after
      | .error fault after => .error fault after := by
  show EStateM.map f call state = _
  unfold EStateM.map EStateM.run
  cases call state <;> rfl

theorem map_run_eq_ok {β : Type} {f : α → β} (injective : Function.Injective f)
    {call : EStateM (Fault ε) σ α} {state after : σ} {value : α} :
    (f <$> call).run state = .ok (f value) after ↔ call.run state = .ok value after := by
  rw [map_run]
  cases call.run state <;> simp [injective.eq_iff]

theorem exists_of_map_run_eq_ok {β : Type} {f : α → β} {call : EStateM (Fault ε) σ α}
    {state after : σ} {result : β} (returned : (f <$> call).run state = .ok result after) :
    ∃ value, call.run state = .ok value after ∧ f value = result := by
  rw [map_run] at returned
  split at returned <;> cases returned
  exact ⟨_, ‹_›, rfl⟩

end Fault

/-- The state a call leaves, whether it returned or not. -/
def finalState {ε σ α : Type} : EStateM.Result ε σ α → σ
  | .ok _ state => state
  | .error _ state => state

/-- What a call returned, without the state it left. -/
def returnedValue {ε σ α : Type} : EStateM.Result ε σ α → Except ε α
  | .ok value _ => .ok value
  | .error fault _ => .error fault

theorem finalState_bind {ε σ α β : Type} (call : EStateM ε σ α) (rest : α → EStateM ε σ β)
    (state : σ) :
    finalState ((call >>= rest).run state) = match call.run state with
      | .ok value after => finalState ((rest value).run after)
      | .error _ after => after := by
  show finalState (EStateM.bind call rest state) = _
  unfold EStateM.bind EStateM.run
  cases call state <;> rfl

/-- A relation between the state before and the state after that the call keeps, and
every continuation keeps from any state, the call followed by the continuation keeps;
only transitivity is needed, since a failed first call ends the run where it stopped. -/
theorem finalState_bind_of_trans {ε σ α β : Type} (keeps : σ → σ → Prop)
    (trans : ∀ {first second third : σ}, keeps first second → keeps second third →
      keeps first third)
    {call : EStateM ε σ α} {rest : α → EStateM ε σ β} {state : σ}
    (first : keeps state (finalState (call.run state)))
    (next : ∀ value middle, keeps middle (finalState ((rest value).run middle))) :
    keeps state (finalState ((call >>= rest).run state)) := by
  rw [finalState_bind]
  revert first
  cases call.run state with
  | ok value middle => exact fun first => trans first (next value middle)
  | error _ after => exact id

theorem run_bind_eq_ok {ε σ α β : Type} {call : EStateM ε σ α} {rest : α → EStateM ε σ β}
    {state after : σ} {result : β} (returned : (call >>= rest).run state = .ok result after) :
    ∃ value middle, call.run state = .ok value middle ∧
      (rest value).run middle = .ok result after := by
  revert returned
  show EStateM.bind call rest state = _ → _
  unfold EStateM.bind EStateM.run
  cases call state with
  | ok value middle => exact fun returned => ⟨value, middle, rfl, returned⟩
  | error => nofun

theorem run_bind_of_eq_ok {ε σ α β : Type} {call : EStateM ε σ α} {rest : α → EStateM ε σ β}
    {state middle : σ} {value : α} (returned : call.run state = .ok value middle) :
    (call >>= rest).run state = (rest value).run middle := by
  show EStateM.bind call rest state = _
  unfold EStateM.bind
  rw [show call state = _ from returned]
  rfl

/-- Going on with what a call returned leaves the state the call left. -/
@[simp]
theorem finalState_map {ε σ α β : Type} (f : α → β) (call : EStateM (Fault ε) σ α)
    (state : σ) : finalState ((f <$> call).run state) = finalState (call.run state) := by
  rw [Fault.map_run]
  cases call.run state <;> rfl

/-- A call that only reads leaves the state as it found it. -/
@[simp]
theorem finalState_reading {ε σ α : Type} (step : σ → Except (Fault ε) α) (state : σ) :
    finalState ((Fault.reading step).run state) = state := by
  rw [Fault.reading_run]
  cases step state <;> rfl

end IMessageBridge
