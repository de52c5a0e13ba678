import IMessageBridge.Basic

/-!
# The anisette header cache

`omnisette::AnisetteClient` wraps any `AnisetteProvider` with a sixty-second cache of
its header map. `get_headers` reads the clock, and asks the provider for a fresh map
when the cached one is more than sixty seconds old, or when the clock reads earlier
than the time the cached map was generated (`duration_since` fails and
`unwrap_or(120 s)` stands in). A fresh map is stored with a second clock reading,
taken after the provider answered. A failed provider call returns its error with `?`
before anything is stored.

A run is any sequence of calls, each with its two clock readings. `runGetHeaders`
records, for each call, what the provider answered when the call asked it and what
the call returned. The theorems:

* `getHeaders_run`: one call, as an equation: it asks the provider exactly when the
  clock is more than sixty seconds past `generated_at` or before it;
* `latestSuccess_of_ok`: every `Ok` of a run started from `AnisetteClient::new` with
  readings past the first minute is the map of the most recent successful provider
  call, generated at most sixty seconds before when the call did not ask;
* `successes_apart`: under a clock that never goes back, a successful provider call
  comes more than sixty seconds after the previous successful one was recorded.
-/

namespace IMessageBridge

@[simp]
theorem Duration.fromSecs_nanos (secs : Nat) :
    (Duration.fromSecs secs).nanos = secs * 1000000000 := rfl

/-- `omnisette::AnisetteError`; the errors it wraps are kept as their display text. -/
inductive AnisetteError where
  | unsupportedDevice
  | invalidArgument (argument : String)
  | anisetteNotProvisioned
  | plistError (description : String)
  | reqwestError (description : String)
  | wsError (description : String)
  | serdeError (description : String)
  | ioError (description : String)
  | invalidLibraryFormat
  | misc
  | missingLibraries
  | clearAdiError (description : String)
  | anyhow (description : String)
  deriving DecidableEq, Repr

/-- The `#[error]` texts of `AnisetteError`. -/
def AnisetteError.display : AnisetteError → String
  | .unsupportedDevice => "Unsupported device"
  | .invalidArgument argument => "Invalid argument " ++ argument
  | .anisetteNotProvisioned => "Anisette not provisioned!"
  | .plistError description => "Plist serialization error " ++ description
  | .reqwestError description => "Request Error " ++ description
  | .wsError description => "Provisioning socket error " ++ description
  | .serdeError description => "JSON error " ++ description
  | .ioError description => "IO error " ++ description
  | .invalidLibraryFormat => "Invalid library format"
  | .misc => "Misc"
  | .missingLibraries => "Missing Libraries"
  | .clearAdiError description => "ClearADI Error " ++ description
  | .anyhow description => description

/-- An anisette header map. -/
abbrev Headers := StringMap String

/-- The `AnisetteProvider` trait over a provider state `P`: each call may change the
provider. `get_2fa_code` defaults to `MissingLibraries`. -/
structure AnisetteProvider (P : Type) where
  getAnisetteHeaders : P → Except AnisetteError Headers × P
  get2faCode : P → Except AnisetteError Nat × P := fun state => (.error .missingLibraries, state)

/-- `AnisetteClient<T>`. -/
structure AnisetteClient (P : Type) where
  provider : P
  cachedHeaders : Headers
  generatedAt : SystemTime

/-- The two readings of `SystemTime::now()` in one call of `get_headers`: on entry, and
after the provider answered (read only when it was asked). -/
structure ClockReadings where
  atCall : SystemTime
  afterFetch : SystemTime

namespace AnisetteClient

variable {P : Type}

/-- `AnisetteClient::new`. -/
def new (provider : P) : AnisetteClient P := ⟨provider, ∅, SystemTime.unixEpoch⟩

/-- The test of `get_headers`: the time since `generated_at`, or 120 s when the clock
reads earlier than it, exceeds sixty seconds. -/
def refreshDue (generatedAt now : SystemTime) : Bool :=
  ((now.durationSince generatedAt).getD (Duration.fromSecs 120)).nanos >
    (Duration.fromSecs 60).nanos

/-- `AnisetteClient::get_headers`. -/
def getHeaders (provider : AnisetteProvider P) (clock : ClockReadings) :
    EStateM AnisetteError (AnisetteClient P) Headers := do
  let self ← get
  if refreshDue self.generatedAt clock.atCall then
    let (answer, next) := provider.getAnisetteHeaders self.provider
    set { self with provider := next }
    match answer with
    | .ok headers =>
        set { self with
          provider := next, cachedHeaders := headers, generatedAt := clock.afterFetch }
    | .error error => throw error
  return (← get).cachedHeaders

/-- A refresh is due exactly when the clock is more than sixty seconds past
`generated_at`, or before it. -/
theorem refreshDue_iff (generatedAt now : SystemTime) :
    refreshDue generatedAt now = true ↔
      generatedAt.sinceEpoch + 60 * 1000000000 < now.sinceEpoch ∨
        now.sinceEpoch < generatedAt.sinceEpoch := by
  unfold refreshDue SystemTime.durationSince
  split <;> simp <;> omega

/-- One call of `get_headers`: when a refresh is due, the call asks the provider and
stores a fresh map with the second reading, or returns the provider's error with only
the provider changed; otherwise it returns the cached map and changes nothing. -/
theorem getHeaders_run (provider : AnisetteProvider P) (clock : ClockReadings)
    (client : AnisetteClient P) :
    (getHeaders provider clock).run client =
      if refreshDue client.generatedAt clock.atCall then
        match provider.getAnisetteHeaders client.provider with
        | (.ok headers, next) =>
            .ok headers
              { provider := next, cachedHeaders := headers, generatedAt := clock.afterFetch }
        | (.error error, next) => .error error { client with provider := next }
      else .ok client.cachedHeaders client := by
  simp only [getHeaders, EStateM.run, bind, EStateM.bind, get, getThe, MonadStateOf.get,
    EStateM.get, set, EStateM.set, pure, EStateM.pure, throw, throwThe, MonadExceptOf.throw,
    EStateM.throw]
  split
  · rcases reply : provider.getAnisetteHeaders client.provider with ⟨_ | _, _⟩ <;>
      simp [reply, EStateM.bind, EStateM.set, EStateM.get, EStateM.throw, EStateM.pure]
  · rfl

/-! ## Runs -/

/-- One call of a run: its clock readings, the provider's answer when the call asked
for one, and what the call returned. -/
structure CallRecord where
  clock : ClockReadings
  answer : Option (Except AnisetteError Headers)
  result : Except AnisetteError Headers

/-- What one call from `client` records, and the client it leaves. -/
def call (provider : AnisetteProvider P) (clock : ClockReadings) (client : AnisetteClient P) :
    CallRecord × AnisetteClient P :=
  let answer := if refreshDue client.generatedAt clock.atCall then
    some (provider.getAnisetteHeaders client.provider).1 else none
  match (getHeaders provider clock).run client with
  | .ok headers next => (⟨clock, answer, .ok headers⟩, next)
  | .error error next => (⟨clock, answer, .error error⟩, next)

theorem call_eq (provider : AnisetteProvider P) (clock : ClockReadings)
    (client : AnisetteClient P) :
    call provider clock client =
      if refreshDue client.generatedAt clock.atCall then
        match provider.getAnisetteHeaders client.provider with
        | (.ok headers, next) =>
            (⟨clock, some (.ok headers), .ok headers⟩,
              { provider := next, cachedHeaders := headers, generatedAt := clock.afterFetch })
        | (.error error, next) =>
            (⟨clock, some (.error error), .error error⟩, { client with provider := next })
      else (⟨clock, none, .ok client.cachedHeaders⟩, client) := by
  unfold call
  rw [getHeaders_run]
  split
  · rcases provider.getAnisetteHeaders client.provider with ⟨_ | _, _⟩ <;> simp_all
  · simp_all

/-- A run of calls, one for each clock reading pair, in order. -/
def runGetHeaders (provider : AnisetteProvider P) :
    List ClockReadings → AnisetteClient P → List CallRecord × AnisetteClient P
  | [], client => ([], client)
  | clock :: rest, client =>
      let (record, next) := call provider clock client
      let (records, final) := runGetHeaders provider rest next
      (record :: records, final)

@[simp]
theorem runGetHeaders_cons (provider : AnisetteProvider P) (clock : ClockReadings)
    (rest : List ClockReadings) (client : AnisetteClient P) :
    (runGetHeaders provider (clock :: rest) client).1 =
      (call provider clock client).1 ::
        (runGetHeaders provider rest (call provider clock client).2).1 := rfl

/-- Note a call's answer: a successful one becomes the latest map, with the reading it
was generated at. -/
def noteAnswer (latest : Option (Headers × SystemTime)) (record : CallRecord) :
    Option (Headers × SystemTime) :=
  match record.answer with
  | some (.ok headers) => some (headers, record.clock.afterFetch)
  | _ => latest

/-- The most recent successful provider answer among `records`, with its
`generated_at`. -/
def latestSuccess (records : List CallRecord) : Option (Headers × SystemTime) :=
  records.foldl noteAnswer none

/-- The cache holds the latest successful answer; before any, `generated_at` is still
the epoch. -/
def Caches (client : AnisetteClient P) : Option (Headers × SystemTime) → Prop
  | none => client.generatedAt = SystemTime.unixEpoch
  | some (headers, generatedAt) =>
      client.cachedHeaders = headers ∧ client.generatedAt = generatedAt

/-- The clock never goes back: within a call, and from a call to every later one. -/
def ClockMonotone : List ClockReadings → Prop
  | [] => True
  | clock :: rest =>
      clock.atCall.sinceEpoch ≤ clock.afterFetch.sinceEpoch ∧
        (∀ later ∈ rest, clock.afterFetch.sinceEpoch ≤ later.atCall.sinceEpoch) ∧
        ClockMonotone rest

theorem call_caches (provider : AnisetteProvider P) (clock : ClockReadings)
    {client : AnisetteClient P} {latest : Option (Headers × SystemTime)}
    (caches : Caches client latest) :
    Caches (call provider clock client).2 (noteAnswer latest (call provider clock client).1) := by
  rw [call_eq]
  split
  · rcases provider.getAnisetteHeaders client.provider with ⟨_ | _, _⟩
    · exact caches
    · exact ⟨rfl, rfl⟩
  · exact caches

@[simp]
theorem call_clock (provider : AnisetteProvider P) (clock : ClockReadings)
    (client : AnisetteClient P) : (call provider clock client).1.clock = clock := by
  rw [call_eq]
  split
  · rcases provider.getAnisetteHeaders client.provider with ⟨_ | _, _⟩ <;> rfl
  · rfl

/-- Every record of a run is the record of one call from a client that caches the
latest successful answer of the records before it. -/
theorem runGetHeaders_split (provider : AnisetteProvider P) :
    ∀ (clocks : List ClockReadings) (client : AnisetteClient P) latest
      (before after : List CallRecord) (record : CallRecord),
      Caches client latest →
      (runGetHeaders provider clocks client).1 = before ++ record :: after →
      ∃ current, Caches current (before.foldl noteAnswer latest) ∧
        record = (call provider record.clock current).1 ∧
        ∃ earlier later, clocks = earlier ++ record.clock :: later ∧
          earlier = before.map CallRecord.clock
  | [], _, _, before, _, _, _, split => by cases before <;> cases split
  | clock :: rest, client, latest, before, after, record, caches, split => by
      rw [runGetHeaders_cons] at split
      cases before with
      | nil =>
          obtain ⟨rfl, -⟩ := List.cons.inj split
          exact ⟨client, caches, by rw [call_clock], [], rest, by rw [call_clock]; rfl, rfl⟩
      | cons first before =>
          rw [List.cons_append] at split
          obtain ⟨rfl, restSplit⟩ := List.cons.inj split
          obtain ⟨current, cachesCurrent, isCall, earlier, later, clocksRest, earlierClocks⟩ :=
            runGetHeaders_split provider rest _ _ before after record
              (call_caches provider clock caches) restSplit
          refine ⟨current, cachesCurrent, isCall, clock :: earlier, later, ?_, ?_⟩
          · rw [clocksRest, List.cons_append]
          · rw [earlierClocks, List.map_cons, call_clock]

theorem latestSuccess_append (records : List CallRecord) (record : CallRecord) :
    latestSuccess (records ++ [record]) = noteAnswer (latestSuccess records) record := by
  simp [latestSuccess, List.foldl_append]

theorem foldl_noteAnswer_mem :
    ∀ (records : List CallRecord) latest headers generatedAt,
      records.foldl noteAnswer latest = some (headers, generatedAt) →
      latest = some (headers, generatedAt) ∨
        ∃ record ∈ records, record.clock.afterFetch = generatedAt
  | [], _, _, _, found => Or.inl found
  | record :: rest, latest, headers, generatedAt, found => by
      rcases foldl_noteAnswer_mem rest _ headers generatedAt found with
        fromFirst | ⟨r, member, recorded⟩
      · unfold noteAnswer at fromFirst
        split at fromFirst
        · cases fromFirst
          exact Or.inr ⟨record, List.mem_cons_self _ _, rfl⟩
        · exact Or.inl fromFirst
      · exact Or.inr ⟨r, List.mem_cons_of_mem _ member, recorded⟩

theorem clockMonotone_append :
    ∀ (earlier : List ClockReadings) (clock : ClockReadings) (later : List ClockReadings),
      ClockMonotone (earlier ++ clock :: later) →
      ∀ previous ∈ earlier, previous.afterFetch.sinceEpoch ≤ clock.atCall.sinceEpoch
  | [], _, _, _, _, member => absurd member (List.not_mem_nil _)
  | first :: rest, clock, later, ⟨_, laterOk, monotone⟩, previous, member => by
      rcases List.mem_cons.mp member with rfl | inRest
      · exact laterOk clock (List.mem_append_right _ (List.mem_cons_self _ _))
      · exact clockMonotone_append rest clock later monotone previous inRest

/-- **(1)** In a run from `AnisetteClient::new` whose calls read the clock past the
first minute, every `Ok` is the map of the most recent successful provider call
(this call's own, when it asked). When the call did not ask, that map was generated
at most sixty seconds before the call. -/
theorem latestSuccess_of_ok (provider : AnisetteProvider P) (initial : P)
    (clocks : List ClockReadings)
    (pastFirstMinute : ∀ clock ∈ clocks, 60 * 1000000000 < clock.atCall.sinceEpoch)
    (before after : List CallRecord) (record : CallRecord) (headers : Headers)
    (split : (runGetHeaders provider clocks (new initial)).1 = before ++ record :: after)
    (returned : record.result = .ok headers) :
    ∃ generatedAt, latestSuccess (before ++ [record]) = some (headers, generatedAt) ∧
      (record.answer = none →
        generatedAt.sinceEpoch ≤ record.clock.atCall.sinceEpoch ∧
          record.clock.atCall.sinceEpoch ≤ generatedAt.sinceEpoch + 60 * 1000000000) := by
  obtain ⟨current, caches, isCall, earlier, later, rfl, -⟩ :=
    runGetHeaders_split provider _ (new initial) none before after record rfl split
  have reading := pastFirstMinute record.clock (List.mem_append_right _ (List.mem_cons_self _ _))
  rw [latestSuccess_append]
  unfold latestSuccess
  generalize before.foldl noteAnswer none = latest at caches ⊢
  generalize record.clock = clock at isCall reading ⊢
  subst isCall
  rw [call_eq] at returned ⊢
  by_cases due : refreshDue current.generatedAt clock.atCall = true
  · simp only [due, if_true] at returned ⊢
    generalize provider.getAnisetteHeaders current.provider = reply at returned ⊢
    rcases reply with ⟨_ | fresh, _⟩
    · cases returned
    · cases returned
      exact ⟨_, rfl, fun asked => by cases asked⟩
  · simp only [due, if_false, Bool.false_eq_true] at returned ⊢
    cases returned
    rcases latest with _ | ⟨cached, generatedAt⟩
    · exfalso
      apply due
      rw [refreshDue_iff, show current.generatedAt = SystemTime.unixEpoch from caches]
      exact Or.inl (by simpa [SystemTime.unixEpoch] using reading)
    · obtain ⟨cachedIs, generatedIs⟩ := caches
      rw [refreshDue_iff, generatedIs] at due
      exact ⟨generatedAt, by simp [noteAnswer, cachedIs], fun _ => by omega⟩

/-- **(4)** Under a clock that never goes back, every successful provider call of a
run from `AnisetteClient::new` comes more than sixty seconds after the previous
successful one recorded its map. -/
theorem successes_apart (provider : AnisetteProvider P) (initial : P)
    (clocks : List ClockReadings) (monotone : ClockMonotone clocks)
    (before after : List CallRecord) (record : CallRecord) (fresh previous : Headers)
    (generatedAt : SystemTime)
    (split : (runGetHeaders provider clocks (new initial)).1 = before ++ record :: after)
    (asked : record.answer = some (.ok fresh))
    (previousSuccess : latestSuccess before = some (previous, generatedAt)) :
    generatedAt.sinceEpoch + 60 * 1000000000 < record.clock.atCall.sinceEpoch := by
  obtain ⟨current, caches, isCall, earlier, later, rfl, earlierClocks⟩ :=
    runGetHeaders_split provider _ (new initial) none before after record rfl split
  obtain ⟨r, member, rfl⟩ : ∃ r ∈ before, r.clock.afterFetch = generatedAt := by
    rcases foldl_noteAnswer_mem before none previous generatedAt previousSuccess with
      impossible | found
    · cases impossible
    · exact found
  have ordered := clockMonotone_append earlier record.clock later monotone r.clock
    (by rw [earlierClocks]; exact List.mem_map_of_mem _ member)
  unfold latestSuccess at previousSuccess
  rw [previousSuccess] at caches
  have due : refreshDue current.generatedAt record.clock.atCall = true := by
    rw [isCall, call_eq] at asked
    by_contra stale
    simp [stale] at asked
  rw [refreshDue_iff, caches.2] at due
  omega

/-- The cache contract of `get_headers`. One call asks the provider exactly when the
clock is more than sixty seconds past `generated_at` or before it, and a failed
provider call changes neither the cached map nor `generated_at`. Over a run from
`AnisetteClient::new` with readings past the first minute, every `Ok` is the map of the
most recent successful provider call, generated at most sixty seconds before when the
call did not ask; under a clock that never goes back, successive successful provider
calls are more than sixty seconds apart. -/
theorem getHeaders_cacheContract (provider : AnisetteProvider P) (initial : P) :
    (∀ (client : AnisetteClient P) (clock : ClockReadings),
      (getHeaders provider clock).run client =
        if client.generatedAt.sinceEpoch + 60 * 1000000000 < clock.atCall.sinceEpoch ∨
            clock.atCall.sinceEpoch < client.generatedAt.sinceEpoch then
          match provider.getAnisetteHeaders client.provider with
          | (.ok headers, next) =>
              .ok headers
                { provider := next, cachedHeaders := headers, generatedAt := clock.afterFetch }
          | (.error error, next) => .error error { client with provider := next }
        else .ok client.cachedHeaders client) ∧
    (∀ clocks : List ClockReadings,
      (∀ clock ∈ clocks, 60 * 1000000000 < clock.atCall.sinceEpoch) →
      ∀ before after record headers,
        (runGetHeaders provider clocks (new initial)).1 = before ++ record :: after →
        record.result = .ok headers →
        ∃ generatedAt, latestSuccess (before ++ [record]) = some (headers, generatedAt) ∧
          (record.answer = none →
            generatedAt.sinceEpoch ≤ record.clock.atCall.sinceEpoch ∧
              record.clock.atCall.sinceEpoch ≤ generatedAt.sinceEpoch + 60 * 1000000000)) ∧
    (∀ clocks : List ClockReadings, ClockMonotone clocks →
      ∀ before after record fresh previous generatedAt,
        (runGetHeaders provider clocks (new initial)).1 = before ++ record :: after →
        record.answer = some (.ok fresh) →
        latestSuccess before = some (previous, generatedAt) →
        generatedAt.sinceEpoch + 60 * 1000000000 < record.clock.atCall.sinceEpoch) := by
  refine ⟨fun client clock => ?_, fun clocks pastFirstMinute before after record headers =>
    latestSuccess_of_ok provider initial clocks pastFirstMinute before after record headers,
    fun clocks monotone before after record fresh previous generatedAt =>
    successes_apart provider initial clocks monotone before after record fresh previous
      generatedAt⟩
  rw [getHeaders_run]
  by_cases due : refreshDue client.generatedAt clock.atCall = true
  · rw [if_pos due, if_pos ((refreshDue_iff _ _).mp due)]
  · rw [if_neg due, if_neg (fun stale => due ((refreshDue_iff _ _).mpr stale))]

/-- A provider that answers the given maps in turn, then fails. -/
def scriptedProvider : AnisetteProvider (List Headers) where
  getAnisetteHeaders
    | headers :: rest => (.ok headers, rest)
    | [] => (.error .anisetteNotProvisioned, [])

/-- A map with one machine header. -/
def mdHeaders (md : String) : Headers := (∅ : Headers).insert "X-Apple-I-MD" md

/-- Calls at 61, 100 and 200 seconds past the epoch, each provider answering at once. -/
def at61 : ClockReadings := ⟨⟨61000000000, by decide⟩, ⟨61000000000, by decide⟩⟩

def at100 : ClockReadings := ⟨⟨100000000000, by decide⟩, ⟨100000000000, by decide⟩⟩

def at200 : ClockReadings := ⟨⟨200000000000, by decide⟩, ⟨200000000000, by decide⟩⟩

/-- What those calls record: a fetch, a cache hit, and a fetch once the map is stale. -/
def firstFetch : CallRecord := ⟨at61, some (.ok (mdHeaders "first")), .ok (mdHeaders "first")⟩

def cacheHit : CallRecord := ⟨at100, none, .ok (mdHeaders "first")⟩

def secondFetch : CallRecord :=
  ⟨at200, some (.ok (mdHeaders "second")), .ok (mdHeaders "second")⟩

theorem getHeaders_cacheContract_shown :
    (runGetHeaders scriptedProvider [at61, at100, at200]
        (new [mdHeaders "first", mdHeaders "second"])).1 = [firstFetch, cacheHit, secondFetch] ∧
    (∃ generatedAt, latestSuccess ([firstFetch] ++ [cacheHit]) =
        some (mdHeaders "first", generatedAt) ∧
      (cacheHit.answer = none →
        generatedAt.sinceEpoch ≤ cacheHit.clock.atCall.sinceEpoch ∧
          cacheHit.clock.atCall.sinceEpoch ≤ generatedAt.sinceEpoch + 60 * 1000000000)) ∧
    at61.afterFetch.sinceEpoch + 60 * 1000000000 < secondFetch.clock.atCall.sinceEpoch :=
  ⟨rfl, (getHeaders_cacheContract scriptedProvider [mdHeaders "first", mdHeaders "second"]).2.1
      [at61, at100, at200] (by decide) [firstFetch] [secondFetch] cacheHit (mdHeaders "first")
      rfl rfl,
    (getHeaders_cacheContract scriptedProvider [mdHeaders "first", mdHeaders "second"]).2.2
      [at61, at100, at200] (by simp only [ClockMonotone]; decide) [firstFetch, cacheHit] []
      secondFetch (mdHeaders "second") (mdHeaders "first") at61.afterFetch rfl rfl rfl⟩

end AnisetteClient

end IMessageBridge
