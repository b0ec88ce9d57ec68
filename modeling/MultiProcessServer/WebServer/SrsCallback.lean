/-
  MultiProcessServer.WebServer.SrsCallback
  ────────────────────────────────────────
  `HttpSrsOnSessionHandler`, from the body of a request on: `ParseJsonData`,
  `GetActionAndStream`, which reads four members of whatever JSON value it is
  given, and `HandlerJsonData`.

  Three members are read by `at`, which throws where there is none.  The fourth,
  `client_id`, is read by `operator[]` of a `const` object, which does not: the
  `try` around it does not help.

  Main result: `handledSafely_iff`.
-/
import MultiProcessServer.Lib.Json
import MultiProcessServer.WebServer.Viewers

namespace MultiProcessServer

namespace WebServer

/-! ## §1. Reading the fields. -/

namespace SrsCallback

/-- `strAction.clear()` and so on. -/
def cleared : SrsCallback := ⟨[], [], [], []⟩

/-- `strX = j.at(key)`. -/
def atString (j : Json) (key : String) : Except Json.Fault (List UInt8) :=
  (j.atKey (ascii key)).bind Json.getString

/-- The `client_id` of SRS 3 is a number, that of SRS 4 a string. -/
def getClientId (j : Json) (f : SrsCallback) : SrsCallback × Except Json.Fault Bool :=
  match j.constIndex (ascii "client_id") with
  | .error fault => (f, .error fault)
  | .ok jsonClientId =>
      if jsonClientId.isNumber then
        match jsonClientId.getInt with
        | .error fault => (f, .error fault)
        | .ok nClientId =>
            ({ f with strClientId := ascii (toString nClientId.toInt) }, .ok true)
      else if jsonClientId.isString then
        match jsonClientId.getString with
        | .error fault => (f, .error fault)
        | .ok strClientId => ({ f with strClientId := strClientId }, .ok true)
      else (f, .ok false)

/-- The `try` block: the fields as far as they were assigned, and what it ends
with. -/
def getFields (j : Json) (f : SrsCallback) : SrsCallback × Except Json.Fault Bool :=
  match atString j "action" with
  | .error fault => (f, .error fault)
  | .ok strAction =>
      let f := { f with strAction := strAction }
      match atString j "stream" with
      | .error fault => (f, .error fault)
      | .ok strStream =>
          let f := { f with strStream := strStream }
          match atString j "app" with
          | .error fault => (f, .error fault)
          | .ok strApp => getClientId j { f with strApp := strApp }

/-- `GetActionAndStream`: what it returns and the fields it leaves.  The
`catch` sees the exceptions and nothing else. -/
def getActionAndStream (j : Json) : Except Json.Undefined (Bool × SrsCallback) :=
  match getFields j cleared with
  | (f, .ok b) => .ok (b, f)
  | (f, .error (.exception _)) => .ok (false, f)
  | (_, .error (.undefined u)) => .error u

end SrsCallback

/-! ## §2. Answering a request. -/

/-- `HandlerJsonData`. -/
def handlerJsonData (w : WebServer) (j : Json) : Except Json.Undefined (Reply × WebServer) :=
  match SrsCallback.getActionAndStream j with
  | .error u => .error u
  | .ok (false, _) => .ok (w.srsOnSession none)
  | .ok (true, f) => .ok (w.srsOnSession (some f))

/-- What `HandlerRequest` replies. -/
inductive RequestReply
  | badMethod
  | reply (r : Reply)
  deriving DecidableEq, Repr

/-- `HandlerRequest`.  `parse` is `nlohmann::json::parse`, which throws on what
is no JSON text. -/
def handlerRequest (parse : List UInt8 → Option Json) (w : WebServer) (post : Bool)
    (data : List UInt8) : Except Json.Undefined (RequestReply × WebServer) :=
  if !post then .ok (.badMethod, w)
  else if data.length = 0 then .ok (.reply .badRequest, w)
  else match parse data with
    | none => .ok (.reply .badRequest, w)
    | some j =>
        match w.handlerJsonData j with
        | .error u => .error u
        | .ok (r, w) => .ok (.reply r, w)

/-! ## §3. The shape of a callback. -/

namespace SrsCallback

/-- The three members that `at` reads are strings. -/
structure NamesStream (j : Json) (f : SrsCallback) : Prop where
  action : j.member? (ascii "action") = some (.string f.strAction)
  stream : j.member? (ascii "stream") = some (.string f.strStream)
  app : j.member? (ascii "app") = some (.string f.strApp)

/-- An object whose `action`, `stream` and `app` are strings and whose
`client_id` is a number or a string. -/
def WellShaped (j : Json) : Prop :=
  ∃ f clientId, NamesStream j f ∧ j.member? (ascii "client_id") = some clientId
    ∧ (clientId.isNumber = true ∨ clientId.isString = true)

/-- All but the `client_id` is there. -/
def LacksClientId (j : Json) : Prop :=
  ∃ f, NamesStream j f ∧ j.member? (ascii "client_id") = none

/-- The `client_id` is a number, and no `int`. -/
def ClientIdOutOfRange (j : Json) : Prop :=
  ∃ f clientId, NamesStream j f ∧ j.member? (ascii "client_id") = some clientId
    ∧ clientId.OutOfRange

/-- A reply that says the request was refused. -/
def IsError (r : Reply) : Prop := r = .badRequest ∨ r = srsError

/-- What is expected of the handler on a JSON value. -/
structure HandledSafely (j : Json) : Prop where
  defined : ∃ answer, getActionAndStream j = .ok answer
  returns_iff : (∃ f, getActionAndStream j = .ok (true, f)) ↔ WellShaped j
  /-- A value of another shape is refused. -/
  malformed : ¬ WellShaped j → ∀ w : WebServer, w.handlerJsonData j = .ok (.badRequest, w)
  /-- So is one whose fields do not pass the checks. -/
  invalid : ∀ f, getActionAndStream j = .ok (true, f) → ¬ f.Valid →
    ∀ w : WebServer, ∃ r, IsError r ∧ w.handlerJsonData j = .ok (r, w)

/-! ## §4. What the handler finds. -/

variable {j : Json} {f : SrsCallback}

/-- With the three strings there, `client_id` decides. -/
theorem getFields_of_namesStream (h : NamesStream j f) :
    getFields j cleared = getClientId j { f with strClientId := [] } := by
  have haction : atString j "action" = .ok f.strAction := Json.atKey_getString_of_string h.action
  have hstream : atString j "stream" = .ok f.strStream := Json.atKey_getString_of_string h.stream
  have happ : atString j "app" = .ok f.strApp := Json.atKey_getString_of_string h.app
  rw [getFields, haction, hstream, happ]
  rfl

/-- Without one of them an exception is thrown, and caught. -/
theorem getFields_of_not_namesStream (h : ∀ f, ¬ NamesStream j f) :
    ∃ f e, getFields j cleared = (f, .error (.exception e)) := by
  unfold getFields
  by_cases haction : ∃ s, j.member? (ascii "action") = some (.string s)
  · obtain ⟨action, haction⟩ := haction
    rw [show atString j "action" = .ok action from Json.atKey_getString_of_string haction]
    by_cases hstream : ∃ s, j.member? (ascii "stream") = some (.string s)
    · obtain ⟨stream, hstream⟩ := hstream
      rw [show atString j "stream" = .ok stream from Json.atKey_getString_of_string hstream]
      have happ : ∀ s, j.member? (ascii "app") ≠ some (.string s) :=
        fun s hs => h ⟨action, stream, [], s⟩ ⟨haction, hstream, hs⟩
      obtain ⟨e, he⟩ := Json.atKey_getString_of_not happ
      rw [show atString j "app" = .error (.exception e) from he]
      exact ⟨_, e, rfl⟩
    · obtain ⟨e, he⟩ := Json.atKey_getString_of_not (not_exists.mp hstream)
      rw [show atString j "stream" = .error (.exception e) from he]
      exact ⟨_, e, rfl⟩
  · obtain ⟨e, he⟩ := Json.atKey_getString_of_not (not_exists.mp haction)
    rw [show atString j "action" = .error (.exception e) from he]
    exact ⟨_, e, rfl⟩

/-- What becomes of a `client_id` that is there. -/
theorem getClientId_cases {clientId : Json}
    (hindex : j.constIndex (ascii "client_id") = .ok clientId) (f : SrsCallback) :
    (clientId.OutOfRange ∧ getClientId j f = (f, .error (.undefined .floatToInt)))
    ∨ (¬ clientId.OutOfRange ∧ (clientId.isNumber = true ∨ clientId.isString = true)
      ∧ ∃ s, getClientId j f = ({ f with strClientId := s }, .ok true))
    ∨ (clientId.isNumber = false ∧ clientId.isString = false
      ∧ getClientId j f = (f, .ok false)) := by
  rw [getClientId, hindex]
  dsimp only
  by_cases hnumber : clientId.isNumber = true
  · -- SRS 3
    rw [if_pos hnumber]
    obtain ⟨⟨n, hn⟩, hin⟩ | ⟨hout, hrange⟩ := Json.getInt_of_number hnumber
    · rw [hn]
      exact .inr (.inl ⟨hin, .inl hnumber, _, rfl⟩)
    · rw [hout]
      exact .inl ⟨hrange, rfl⟩
  · rw [if_neg hnumber]
    by_cases hstring : clientId.isString = true
    · -- SRS 4
      rw [if_pos hstring]
      obtain ⟨s, rfl⟩ := Json.isString_eq_true_iff.mp hstring
      exact .inr (.inl ⟨fun ⟨_, heq, _⟩ => (by cases heq), .inr hstring, s, rfl⟩)
    · rw [if_neg hstring]
      exact .inr (.inr ⟨(Bool.not_eq_true _).mp hnumber, (Bool.not_eq_true _).mp hstring, rfl⟩)

/-- **The five ways** `GetActionAndStream` ends. -/
theorem getActionAndStream_cases (j : Json) :
    ((∀ f, ¬ NamesStream j f) ∧ ∃ f, getActionAndStream j = .ok (false, f))
    ∨ (LacksClientId j ∧ getActionAndStream j = .error .missingKey)
    ∨ (ClientIdOutOfRange j ∧ getActionAndStream j = .error .floatToInt)
    ∨ (WellShaped j ∧ ¬ ClientIdOutOfRange j ∧ ∃ f, getActionAndStream j = .ok (true, f))
    ∨ (∃ f clientId, NamesStream j f ∧ j.member? (ascii "client_id") = some clientId
      ∧ clientId.isNumber = false ∧ clientId.isString = false)
      ∧ ∃ f, getActionAndStream j = .ok (false, f) := by
  by_cases hnames : ∃ f, NamesStream j f
  · obtain ⟨f, hf⟩ := hnames
    have hfields := getFields_of_namesStream hf
    -- the value is an object: `action` is one of its members
    have hindex := @Json.constIndex_of_object j (ascii "client_id") _ _ hf.action
    cases hclient : j.member? (ascii "client_id") with
    | none =>
        rw [hclient] at hindex
        rw [getClientId, hindex] at hfields
        refine .inr (.inl ⟨⟨f, hf, hclient⟩, ?_⟩)
        rw [getActionAndStream, hfields]
    | some clientId =>
        rw [hclient] at hindex
        rw [getActionAndStream, hfields]
        obtain ⟨hrange, hans⟩ | ⟨hin, hkind, s, hans⟩ | ⟨hnumber, hstring, hans⟩ :=
          getClientId_cases hindex { f with strClientId := [] }
        · rw [hans]
          exact .inr (.inr (.inl ⟨⟨f, clientId, hf, hclient, hrange⟩, rfl⟩))
        · rw [hans]
          refine .inr (.inr (.inr (.inl ⟨⟨f, clientId, hf, hclient, hkind⟩, ?_, _, rfl⟩)))
          rintro ⟨_, clientId', _, hclient', hrange⟩
          rw [hclient] at hclient'
          cases hclient'
          exact hin hrange
        · rw [hans]
          exact .inr (.inr (.inr (.inr ⟨⟨f, clientId, hf, rfl, hnumber, hstring⟩, _, rfl⟩)))
  · have hnone := not_exists.mp hnames
    obtain ⟨f, e, he⟩ := getFields_of_not_namesStream hnone
    refine .inl ⟨hnone, f, ?_⟩
    rw [getActionAndStream, he]

/-- What `GetActionAndStream` refuses, `HandlerJsonData` answers with an error. -/
theorem handlerJsonData_of_refused (h : getActionAndStream j = .ok (false, f)) (w : WebServer) :
    w.handlerJsonData j = .ok (.badRequest, w) := by
  rw [handlerJsonData, h]
  rfl

/-- The fields it finds are checked before anything is done with them. -/
theorem handlerJsonData_of_not_valid (h : getActionAndStream j = .ok (true, f))
    (hvalid : ¬ f.Valid) (w : WebServer) :
    ∃ r, IsError r ∧ w.handlerJsonData j = .ok (r, w) := by
  rw [handlerJsonData, h]
  rcases w.srsOnSession_of_not_valid hvalid with hr | hr
  · exact ⟨_, .inl rfl, congrArg Except.ok hr⟩
  · exact ⟨_, .inr rfl, congrArg Except.ok hr⟩

/-- A value that is refused is handled safely if it has no proper shape. -/
theorem handledSafely_of_refused (h : getActionAndStream j = .ok (false, f))
    (hshape : ¬ WellShaped j) : HandledSafely j where
  defined := ⟨_, h⟩
  returns_iff := by
    refine iff_of_false ?_ hshape
    rintro ⟨f', hf'⟩
    rw [h] at hf'
    cases hf'
  malformed _ := handlerJsonData_of_refused h
  invalid f' hf' := by
    rw [h] at hf'
    cases hf'

/-- A value of the proper shape is handled safely if it is accepted. -/
theorem handledSafely_of_accepted (h : getActionAndStream j = .ok (true, f))
    (hshape : WellShaped j) : HandledSafely j where
  defined := ⟨_, h⟩
  returns_iff := iff_of_true ⟨f, h⟩ hshape
  malformed hnot := absurd hshape hnot
  invalid _ hf' := handlerJsonData_of_not_valid hf'

/-- Where the behaviour is undefined nothing can be said. -/
theorem not_handledSafely_of_undefined {u : Json.Undefined}
    (h : getActionAndStream j = .error u) : ¬ HandledSafely j := by
  intro hsafe
  obtain ⟨_, hanswer⟩ := hsafe.defined
  rw [h] at hanswer
  cases hanswer

/-- **The handler is safe** on every JSON value but two kinds, both complete up
to the `client_id`: it is missing, or a floating-point number beyond `int`. -/
theorem handledSafely_iff (j : Json) :
    HandledSafely j ↔ ¬ LacksClientId j ∧ ¬ ClientIdOutOfRange j := by
  obtain ⟨hnone, f, hans⟩ | ⟨hlacks, hans⟩ | ⟨hrange, hans⟩ | ⟨hshape, hin, f, hans⟩
    | ⟨⟨f, clientId, hf, hclient, hnumber, hstring⟩, f', hans⟩ := getActionAndStream_cases j
  · have hshape : ¬ WellShaped j := fun ⟨f, _, hf, _⟩ => hnone f hf
    refine iff_of_true (handledSafely_of_refused hans hshape) ⟨?_, ?_⟩
    · exact fun ⟨f, hf, _⟩ => hnone f hf
    · exact fun ⟨f, _, hf, _⟩ => hnone f hf
  · exact iff_of_false (not_handledSafely_of_undefined hans) fun h => h.1 hlacks
  · exact iff_of_false (not_handledSafely_of_undefined hans) fun h => h.2 hrange
  · refine iff_of_true (handledSafely_of_accepted hans hshape) ⟨?_, hin⟩
    rintro ⟨_, _, hmissing⟩
    obtain ⟨_, clientId, _, hclient, _⟩ := hshape
    rw [hmissing] at hclient
    cases hclient
  · -- the only member of that name is neither a number nor a string
    have huniq : ∀ c, j.member? (ascii "client_id") = some c → c = clientId := by
      intro c hc
      rw [hclient] at hc
      exact (Option.some.inj hc).symm
    have hshape : ¬ WellShaped j := by
      rintro ⟨_, c, _, hc, hkind⟩
      rw [huniq c hc, hnumber, hstring] at hkind
      exact hkind.elim Bool.false_ne_true Bool.false_ne_true
    refine iff_of_true (handledSafely_of_refused hans hshape) ⟨?_, ?_⟩
    · rintro ⟨_, _, hmissing⟩
      rw [hmissing] at hclient
      cases hclient
    · rintro ⟨_, c, _, hc, value, rfl, _⟩
      rw [← huniq _ hc] at hnumber
      cases hnumber

/-- The callback of a browser that starts playing, without its `client_id`. -/
def onPlayWithoutClientId : Json :=
  .object [(ascii "action", .string (ascii "on_play")),
    (ascii "stream", .string (ascii "01395221031201")), (ascii "app", .string (ascii "live"))]

theorem not_handledSafely_onPlayWithoutClientId : ¬ HandledSafely onPlayWithoutClientId :=
  not_handledSafely_of_undefined (u := .missingKey) rfl

/-! ## §5. Requests. -/

/-- **A request that carries no JSON text** is refused without a look at its
fields. -/
theorem handlerRequest_refused {parse : List UInt8 → Option Json} {post : Bool}
    {data : List UInt8} (h : post = false ∨ data = [] ∨ parse data = none) (w : WebServer) :
    ∃ r, (r = .badMethod ∨ r = .reply .badRequest)
      ∧ w.handlerRequest parse post data = .ok (r, w) := by
  rw [handlerRequest]
  by_cases hpost : post = false
  · exact ⟨_, .inl rfl, if_pos (by rw [hpost]; rfl)⟩
  rw [if_neg (by simpa using hpost)]
  by_cases hdata : data.length = 0
  · exact ⟨_, .inr rfl, if_pos hdata⟩
  rw [if_neg hdata]
  have hparse : parse data = none :=
    (h.resolve_left hpost).resolve_left fun hnil => hdata (by rw [hnil]; rfl)
  rw [hparse]
  exact ⟨_, .inr rfl, rfl⟩

/-- **A request with a malformed body** is answered with an error and leaves the
viewers as they were, if its value is of no kind the handler cannot take. -/
theorem handlerRequest_malformed {parse : List UInt8 → Option Json} {data : List UInt8}
    (hparse : parse data = some j) (hdata : data ≠ []) (hlacks : ¬ LacksClientId j)
    (hrange : ¬ ClientIdOutOfRange j) (hshape : ¬ WellShaped j) (w : WebServer) :
    w.handlerRequest parse true data = .ok (.reply .badRequest, w) := by
  have hsafe : HandledSafely j := (handledSafely_iff j).mpr ⟨hlacks, hrange⟩
  rw [handlerRequest, if_neg (by decide), if_neg (mt List.length_eq_zero_iff.mp hdata), hparse]
  dsimp only
  rw [hsafe.malformed hshape w]

end SrsCallback

end WebServer

end MultiProcessServer
