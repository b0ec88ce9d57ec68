/-
  MultiProcessServer.NewWebServer.CarWebSocketServer
  ──────────────────────────────────────────────────
  `CarTopicManager` and `CarWebSocketServer`: who watches which car over a
  WebSocket.

  Main result:

    `topics_exact` :
        a topic is there exactly while a handle subscribes to it, the handles
        are those of `m_subscribers`, and the calls of the subscribe callback
        about a car take turns.

  `CarTopicManager.Subscribed` is what the topics mean; each operation has one
  lemma that says what it does to that relation, and one for which topics
  there are.
-/
import MultiProcessServer.Jt1078Util
import MultiProcessServer.Lib.Alternation
import MultiProcessServer.Lib.Sweep

namespace MultiProcessServer

open Runs

/-- `websocketpp::connection_hdl`, ordered by owner. -/
abbrev ConnectionHdl := Nat

/-! ## §1. `class CarTopic`. -/

structure CarTopic where
  deviceId : UInt64
  hdls : Std.TreeSet ConnectionHdl

namespace CarTopic

def new (deviceId : UInt64) : CarTopic where
  deviceId := deviceId
  hdls := ∅

variable (t : CarTopic)

def addSubscriber (hdl : ConnectionHdl) : CarTopic := { t with hdls := t.hdls.insert hdl }

def removeSubscriber (hdl : ConnectionHdl) : CarTopic := { t with hdls := t.hdls.erase hdl }

def count : Nat := t.hdls.size

def isEmpty : Bool := t.count == 0

/-- `Publish`: the calls of `SendToHdl`, in order. -/
def publish (data : List UInt8) : List (ConnectionHdl × List UInt8) :=
  t.hdls.toList.map fun hdl => (hdl, data)

variable {t} {hdl x : ConnectionHdl}

@[simp] theorem mem_addSubscriber :
    hdl ∈ (t.addSubscriber x).hdls ↔ hdl = x ∨ hdl ∈ t.hdls := by
  unfold addSubscriber
  rw [Std.TreeSet.mem_insert, Std.LawfulEqOrd.compare_eq_iff_eq, @eq_comm _ x]

@[simp] theorem mem_removeSubscriber :
    hdl ∈ (t.removeSubscriber x).hdls ↔ hdl ≠ x ∧ hdl ∈ t.hdls := by
  rw [removeSubscriber, Std.TreeSet.mem_erase, ne_eq, Std.LawfulEqOrd.compare_eq_iff_eq,
    @eq_comm _ x]

theorem not_mem_new (deviceId : UInt64) : hdl ∉ (new deviceId).hdls :=
  Std.TreeSet.not_mem_emptyc

theorem isEmpty_iff : t.isEmpty = true ↔ ∀ hdl, hdl ∉ t.hdls := by
  rw [← Std.TreeSet.isEmpty_iff_forall_not_mem, Std.TreeSet.isEmpty_eq_size_eq_zero]
  rfl

end CarTopic

/-! ## §2. `class CarTopicManager`. -/

structure CarTopicManager where
  topics : Std.TreeMap UInt64 CarTopic

namespace CarTopicManager

variable (m : CarTopicManager)

def existsTopic (deviceId : UInt64) : Bool := m.topics.contains deviceId

/-- `GetTopic`: the topic, if there is one now, and the topics. -/
def getTopic (deviceId : UInt64) (bCreateIfNotExists : Bool) :
    Option CarTopic × CarTopicManager :=
  match m.topics[deviceId]? with
  | some topic => (some topic, m)
  | none =>
      if bCreateIfNotExists then
        (some (.new deviceId), { m with topics := m.topics.insert deviceId (.new deviceId) })
      else (none, m)

/-- What the pointer of a topic points to has changed. -/
def setTopic (deviceId : UInt64) (topic : CarTopic) : CarTopicManager :=
  { m with topics := m.topics.insert deviceId topic }

def removeTopics (deviceIds : List UInt64) : CarTopicManager :=
  { m with topics := deviceIds.foldl (fun topics deviceId => topics.erase deviceId) m.topics }

/-- `RemoveSubscriber`, from every topic. -/
def removeSubscriber (hdl : ConnectionHdl) : CarTopicManager :=
  { m with topics := m.topics.map fun _ topic => topic.removeSubscriber hdl }

def getEmptyTopicList : List UInt64 :=
  m.topics.toList.filterMap fun entry => if entry.2.isEmpty then some entry.1 else none

/-- The handle is in the topic. -/
def Subscribed (hdl : ConnectionHdl) (deviceId : UInt64) : Prop :=
  ∃ topic, m.topics[deviceId]? = some topic ∧ hdl ∈ topic.hdls

instance (hdl : ConnectionHdl) (deviceId : UInt64) : Decidable (m.Subscribed hdl deviceId) :=
  decidable_of_iff ((m.topics[deviceId]?).any fun topic => topic.hdls.contains hdl) <| by
    cases h : m.topics[deviceId]? with
    | none => simp [Subscribed, h]
    | some topic => simp [Subscribed, h, Std.TreeSet.contains_iff_mem]

variable {m} {hdl x : ConnectionHdl} {d deviceId : UInt64}

theorem existsTopic_iff : m.existsTopic d = true ↔ ∃ topic, m.topics[d]? = some topic := by
  unfold existsTopic
  rw [Std.TreeMap.contains_eq_isSome_getElem?, Option.isSome_iff_exists]

theorem subscribed_of_getElem {topic : CarTopic} (h : m.topics[d]? = some topic) :
    m.Subscribed hdl d ↔ hdl ∈ topic.hdls := by
  simp [Subscribed, h]

theorem Subscribed.existsTopic (h : m.Subscribed hdl d) : m.existsTopic d = true := by
  obtain ⟨topic, htopic, -⟩ := h
  exact existsTopic_iff.mpr ⟨topic, htopic⟩

/-- Writing one topic leaves the others. -/
theorem subscribed_setTopic {topic : CarTopic} :
    (m.setTopic deviceId topic).Subscribed hdl d
      ↔ if d = deviceId then hdl ∈ topic.hdls else m.Subscribed hdl d := by
  simp only [Subscribed, setTopic, Std.TreeMap.getElem?_insert,
    Std.LawfulEqOrd.compare_eq_iff_eq]
  by_cases h : d = deviceId
  · simp [h]
  · simp [h, Ne.symm h]

theorem existsTopic_setTopic {topic : CarTopic} :
    (m.setTopic deviceId topic).existsTopic d = true ↔ d = deviceId ∨ m.existsTopic d = true := by
  simp only [existsTopic, setTopic, Std.TreeMap.contains_insert, Bool.or_eq_true, beq_iff_eq,
    Std.LawfulEqOrd.compare_eq_iff_eq, @eq_comm _ deviceId]

section Join

variable {m' : CarTopicManager} {topic : CarTopic}

/-- A topic that is created has nobody in it. -/
theorem getTopic_create (h : m.getTopic deviceId true = (some topic, m')) :
    (hdl ∈ topic.hdls ↔ m.Subscribed hdl deviceId)
      ∧ (m' = m ∨ m' = m.setTopic deviceId topic) := by
  unfold getTopic at h
  split at h
  next found hfound =>
      rw [Prod.mk.injEq, Option.some.injEq] at h
      obtain ⟨rfl, rfl⟩ := h
      exact ⟨(subscribed_of_getElem hfound).symm, Or.inl rfl⟩
  next hnone =>
      simp only [if_true, Prod.mk.injEq, Option.some.injEq] at h
      obtain ⟨rfl, rfl⟩ := h
      exact ⟨iff_of_false (CarTopic.not_mem_new deviceId) (by simp [Subscribed, hnone]),
        Or.inr rfl⟩

/-- **A handle joins a topic**, which is created if need be. -/
theorem subscribed_join (h : m.getTopic deviceId true = (some topic, m')) :
    (m'.setTopic deviceId (topic.addSubscriber x)).Subscribed hdl d
      ↔ (hdl = x ∧ d = deviceId) ∨ m.Subscribed hdl d := by
  obtain ⟨hin, hm⟩ := @getTopic_create m hdl deviceId m' topic h
  rw [subscribed_setTopic]
  split
  next heq =>
      subst heq
      simp [hin]
  next hne =>
      rcases hm with rfl | rfl
      · simp [hne]
      · rw [subscribed_setTopic, if_neg hne]
        simp [hne]

theorem existsTopic_join (h : m.getTopic deviceId true = (some topic, m')) :
    (m'.setTopic deviceId (topic.addSubscriber x)).existsTopic d = true
      ↔ d = deviceId ∨ m.existsTopic d = true := by
  obtain ⟨-, hm⟩ := @getTopic_create m x deviceId m' topic h
  rw [existsTopic_setTopic]
  rcases hm with rfl | rfl
  · exact Iff.rfl
  · rw [existsTopic_setTopic, ← or_assoc, or_self]

end Join

theorem subscribed_removeSubscriber :
    (m.removeSubscriber x).Subscribed hdl d ↔ hdl ≠ x ∧ m.Subscribed hdl d := by
  simp only [Subscribed, removeSubscriber, Std.TreeMap.getElem?_map]
  cases m.topics[d]? with
  | none => simp
  | some topic => simp

theorem existsTopic_removeSubscriber : (m.removeSubscriber x).existsTopic d = m.existsTopic d := by
  simp only [existsTopic, removeSubscriber, Std.TreeMap.contains_map]

theorem mem_getEmptyTopicList :
    d ∈ m.getEmptyTopicList ↔ m.existsTopic d = true ∧ ∀ hdl, ¬m.Subscribed hdl d := by
  have hmem : d ∈ m.getEmptyTopicList
      ↔ ∃ topic, m.topics[d]? = some topic ∧ topic.isEmpty = true := by
    unfold getEmptyTopicList
    rw [List.mem_filterMap]
    constructor
    · intro h
      obtain ⟨entry, hentry, hempty⟩ := h
      split at hempty
      next hyes =>
          have hid : entry.1 = d := Option.some.inj hempty
          refine ⟨entry.2, ?_, hyes⟩
          rw [← hid]
          exact Std.TreeMap.mem_toList_iff_getElem?_eq_some.mp hentry
      next => cases hempty
    · intro h
      obtain ⟨topic, htopic, hempty⟩ := h
      exact ⟨(d, topic), Std.TreeMap.mem_toList_iff_getElem?_eq_some.mpr htopic,
        if_pos hempty⟩
  rw [hmem, existsTopic_iff]
  constructor
  · intro h
    obtain ⟨topic, htopic, hempty⟩ := h
    refine ⟨⟨topic, htopic⟩, fun hdl hsub => ?_⟩
    exact CarTopic.isEmpty_iff.mp hempty hdl ((subscribed_of_getElem htopic).mp hsub)
  · intro h
    obtain ⟨⟨topic, htopic⟩, hnobody⟩ := h
    refine ⟨topic, htopic, CarTopic.isEmpty_iff.mpr fun hdl hmem => ?_⟩
    exact hnobody hdl ((subscribed_of_getElem htopic).mpr hmem)

/-- The list names a topic once. -/
theorem nodup_getEmptyTopicList : m.getEmptyTopicList.Nodup := by
  unfold getEmptyTopicList
  refine List.Pairwise.filterMap _ (R := fun a b => a.1 ≠ b.1) ?_ ?_
  · intro a b hne x hx y hy
    split at hx
    next =>
        split at hy
        next => rw [← Option.some.inj hx, ← Option.some.inj hy]; exact hne
        next => cases hy
    next => cases hx
  · refine Std.TreeMap.distinct_keys_toList.imp ?_
    intro a b hne heq
    exact hne (Std.LawfulEqOrd.compare_eq_iff_eq.mpr heq)

theorem getElem_removeTopics (deviceIds : List UInt64) :
    ∀ m : CarTopicManager, (m.removeTopics deviceIds).topics[d]?
      = if d ∈ deviceIds then none else m.topics[d]? := by
  induction deviceIds with
  | nil => intro m; simp [removeTopics]
  | cons x xs ih =>
      intro m
      have hrest := ih { m with topics := m.topics.erase x }
      simp only [removeTopics, List.foldl_cons] at hrest ⊢
      rw [hrest, Std.TreeMap.getElem?_erase]
      by_cases hxs : d ∈ xs
      · simp [hxs]
      · by_cases hx : d = x
        · simp [hx]
        · have hne : compare x d ≠ .eq := by
            rw [ne_eq, Std.LawfulEqOrd.compare_eq_iff_eq]
            exact Ne.symm hx
          simp [hxs, hx, hne]

theorem subscribed_removeTopics {deviceIds : List UInt64} :
    (m.removeTopics deviceIds).Subscribed hdl d ↔ d ∉ deviceIds ∧ m.Subscribed hdl d := by
  unfold Subscribed
  rw [getElem_removeTopics]
  by_cases h : d ∈ deviceIds <;> simp [h]

theorem existsTopic_removeTopics {deviceIds : List UInt64} :
    (m.removeTopics deviceIds).existsTopic d = true
      ↔ d ∉ deviceIds ∧ m.existsTopic d = true := by
  rw [existsTopic_iff, existsTopic_iff, getElem_removeTopics]
  by_cases h : d ∈ deviceIds <;> simp [h]

end CarTopicManager

/-! ## §3. `class CarWebSocketServer`. -/

/-- `garbage` is for `GenerateDeviceIdStrByDeviceId`. -/
structure CarWebSocketServer where
  topicManager : CarTopicManager
  subscribers : Std.TreeMap ConnectionHdl (List UInt8)
  garbage : UInt8

namespace CarWebSocketServer

/-- What the server does to others: it calls `m_func_notify_subscribe` (which
`CarWebServer::Listen` sets), closes a handle with
`websocketpp::close::status::normal`, or sends to a handle. -/
inductive Call
  | notifySubscribe (strDeviceId : List UInt8) (bSubscribe : Bool)
  | closeConnectionHdl (hdl : ConnectionHdl) (reason : String)
  | sendToHdl (hdl : ConnectionHdl) (data : List UInt8)
  deriving DecidableEq, Repr

/-- The callbacks of websocketpp; `onOpen` comes with what `get_con_from_hdl`
finds: the uri of the request, or nothing.  And the calls of `UpdateData`. -/
inductive Event
  | onOpen (hdl : ConnectionHdl) (uri : Option (List UInt8))
  | onClose (hdl : ConnectionHdl)
  | updateData (deviceId : UInt64) (data : List UInt8)
  deriving DecidableEq, Repr

def new (garbage : UInt8) : CarWebSocketServer where
  topicManager := ⟨∅⟩
  subscribers := ∅
  garbage := garbage

/-- `"/live/"`. -/
def strLive : List UInt8 := [47, 108, 105, 118, 101, 47]

variable (s : CarWebSocketServer)

def addHdlAndSubscribeCarDeviceId (hdl : ConnectionHdl) (strDeviceId : List UInt8) :
    CarWebSocketServer × List Call :=
  let subscribers := s.subscribers.insert hdl strDeviceId
  let deviceId := generateDeviceId strDeviceId
  let ((topic, topicManager), calls) :=
    if s.topicManager.existsTopic deviceId then (s.topicManager.getTopic deviceId false, [])
    else
      let created := s.topicManager.getTopic deviceId true
      (created, if created.1.isSome then [.notifySubscribe strDeviceId true] else [])
  match topic with
  | some topic =>
      ({ s with
          subscribers := subscribers
          topicManager := topicManager.setTopic deviceId (topic.addSubscriber hdl) }, calls)
  | none => ({ s with subscribers := subscribers, topicManager := topicManager }, calls)

def removeHdlAndUnSubscribeCarDeviceId (hdl : ConnectionHdl) :
    CarWebSocketServer × List Call :=
  let topicManager := s.topicManager.removeSubscriber hdl
  let list := topicManager.getEmptyTopicList
  ({ s with
      subscribers := s.subscribers.erase hdl
      topicManager := topicManager.removeTopics list },
    list.map fun deviceId =>
      .notifySubscribe (generateDeviceIdStrByDeviceId s.garbage deviceId) false)

/-- `onOpen`: only `/live/` and the 14 characters of a device are served. -/
def onOpen (hdl : ConnectionHdl) : Option (List UInt8) → CarWebSocketServer × List Call
  | none => (s, [])
  | some uri =>
      if uri.take strLive.length = strLive then
        let strDeviceId := uri.drop strLive.length
        if strDeviceId.length ≠ 14 then (s, [.closeConnectionHdl hdl "invalid device_id"])
        else s.addHdlAndSubscribeCarDeviceId hdl strDeviceId
      else (s, [.closeConnectionHdl hdl "not support uri"])

/-- `UpdateData`, through `CarTopic::Publish` and `SendToHdl`. -/
def updateData (deviceId : UInt64) (data : List UInt8) : List Call :=
  match (s.topicManager.getTopic deviceId false).1 with
  | none => []
  | some topic => (topic.publish data).map fun send => .sendToHdl send.1 send.2

def handle : Event → CarWebSocketServer × List Call
  | .onOpen hdl uri => s.onOpen hdl uri
  | .onClose hdl => s.removeHdlAndUnSubscribeCarDeviceId hdl
  | .updateData deviceId data => (s, s.updateData deviceId data)

def step (e : Event) : CarWebSocketServer := (s.handle e).1

def calls (e : Event) : List Call := (s.handle e).2

variable {s} {hdl x : ConnectionHdl} {d : UInt64} {strDeviceId : List UInt8}

/-- Subscribing joins the topic; a new topic is announced. -/
theorem addHdl_cases (s : CarWebSocketServer) (hdl : ConnectionHdl) (strDeviceId : List UInt8) :
    ∃ topic m,
    s.topicManager.getTopic (generateDeviceId strDeviceId) true = (some topic, m)
      ∧ s.addHdlAndSubscribeCarDeviceId hdl strDeviceId
        = ({ s with
              subscribers := s.subscribers.insert hdl strDeviceId
              topicManager :=
                m.setTopic (generateDeviceId strDeviceId) (topic.addSubscriber hdl) },
            if s.topicManager.existsTopic (generateDeviceId strDeviceId) then []
            else [.notifySubscribe strDeviceId true]) := by
  unfold addHdlAndSubscribeCarDeviceId
  cases htopic : s.topicManager.topics[generateDeviceId strDeviceId]? with
  | some topic =>
      have hexists : s.topicManager.existsTopic (generateDeviceId strDeviceId) = true :=
        CarTopicManager.existsTopic_iff.mpr ⟨topic, htopic⟩
      refine ⟨topic, s.topicManager, ?_, ?_⟩ <;>
        simp [hexists, CarTopicManager.getTopic, htopic]
  | none =>
      have hexists : s.topicManager.existsTopic (generateDeviceId strDeviceId) = false := by
        rw [CarTopicManager.existsTopic, Std.TreeMap.contains_eq_isSome_getElem?, htopic]
        rfl
      refine ⟨.new (generateDeviceId strDeviceId), s.topicManager.setTopic
        (generateDeviceId strDeviceId) (.new (generateDeviceId strDeviceId)), ?_, ?_⟩ <;>
        simp [hexists, CarTopicManager.getTopic, CarTopicManager.setTopic, htopic]

/-- The topics nobody is in after the handle left them. -/
def emptied (s : CarWebSocketServer) (hdl : ConnectionHdl) : List UInt64 :=
  (s.topicManager.removeSubscriber hdl).getEmptyTopicList

theorem mem_emptied : d ∈ s.emptied hdl
    ↔ s.topicManager.existsTopic d = true
      ∧ ∀ x, x ≠ hdl → ¬s.topicManager.Subscribed x d := by
  unfold emptied
  rw [CarTopicManager.mem_getEmptyTopicList, CarTopicManager.existsTopic_removeSubscriber]
  simp only [CarTopicManager.subscribed_removeSubscriber, not_and]

/-! ## §4. Handles, topics and notifications. -/

/-- What a call tells the subscriber of a car's data, when the text is read
back. -/
def Call.mark (d : UInt64) : Call → Option Bool
  | .notifySubscribe strDeviceId bSubscribe =>
      if generateDeviceId strDeviceId = d then some bSubscribe else none
  | .closeConnectionHdl _ _ | .sendToHdl _ _ => none

/-- The notifications about a car. -/
def marks (d : UInt64) (calls : List Call) : List Bool := calls.filterMap (Call.mark d)

/-- Between events every topic has a handle in it, and an id of at most 14
digits. -/
structure Attended (s : CarWebSocketServer) : Prop where
  attended : ∀ d, s.topicManager.existsTopic d = true ↔ ∃ hdl, s.topicManager.Subscribed hdl d
  printable : ∀ d, s.topicManager.existsTopic d = true → d.toNat < 2 ^ 56

/-- And the handles of a topic are those that `m_subscribers` sends there. -/
structure Exact (s : CarWebSocketServer) : Prop extends s.Attended where
  agrees : ∀ hdl d, s.topicManager.Subscribed hdl d
    ↔ ∃ strDeviceId, s.subscribers[hdl]? = some strDeviceId ∧ generateDeviceId strDeviceId = d

/-- The handle an event opens. -/
def Event.opened : Event → Option ConnectionHdl
  | .onOpen hdl _ => some hdl
  | .onClose _ | .updateData _ _ => none

/-- The uri of an open is rejected, or names a car by hexadecimal digits. -/
def Event.Spelled : Event → Prop
  | .onOpen _ uri => ∀ strDeviceId, uri = some (strLive ++ strDeviceId) →
      strDeviceId.length = 14 → ∀ b ∈ strDeviceId, Hex.isxdigit b = true
  | .onClose _ | .updateData _ _ => True

theorem spelled_live (hdl : ConnectionHdl) (h : ∀ b ∈ strDeviceId, Hex.isxdigit b = true) :
    (Event.onOpen hdl (some (strLive ++ strDeviceId))).Spelled := by
  intro text htext _
  rw [Option.some.injEq, List.append_cancel_left_eq] at htext
  rw [← htext]
  exact h

theorem attended_new (garbage : UInt8) : (new garbage).Attended where
  attended d := by simp [new, CarTopicManager.Subscribed, CarTopicManager.existsTopic]
  printable d h := by simp [new, CarTopicManager.existsTopic] at h

/-- A text of 14 hexadecimal digits stands for less than `2 ^ 56`. -/
theorem generateDeviceId_lt (hlen : strDeviceId.length = 14)
    (hdigits : ∀ b ∈ strDeviceId, Hex.isxdigit b = true) :
    (generateDeviceId strDeviceId).toNat < 2 ^ 56 := by
  have hvalue := Hex.value_lt strDeviceId hdigits
  rw [hlen] at hvalue
  unfold generateDeviceId
  rw [Hex.cString_of_digits hdigits, Hex.strtoull16_of_digits hdigits (by omega),
    UInt64.toNat_ofNat_of_lt' (by show _ < 2 ^ 64; omega)]
  omega

theorem Attended.addHdl (h : s.Attended) (hlt : (generateDeviceId strDeviceId).toNat < 2 ^ 56) :
    (s.addHdlAndSubscribeCarDeviceId hdl strDeviceId).1.Attended := by
  obtain ⟨topic, m, htopic, heq⟩ := s.addHdl_cases hdl strDeviceId
  rw [heq]
  refine ⟨fun d => ?_, fun d hd => ?_⟩
  · simp only [CarTopicManager.existsTopic_join htopic, CarTopicManager.subscribed_join htopic]
    rw [h.attended]
    constructor
    · intro hd
      rcases hd with rfl | ⟨x, hx⟩
      · exact ⟨hdl, Or.inl ⟨rfl, rfl⟩⟩
      · exact ⟨x, Or.inr hx⟩
    · intro hd
      obtain ⟨x, ⟨-, rfl⟩ | hx⟩ := hd
      · exact Or.inl rfl
      · exact Or.inr ⟨x, hx⟩
  · rcases (CarTopicManager.existsTopic_join htopic).mp hd with rfl | hd
    · exact hlt
    · exact h.printable d hd

/-- Subscribing announces a topic exactly when it creates it. -/
theorem marks_addHdl : Alternates (s.topicManager.existsTopic d)
      (marks d (s.addHdlAndSubscribeCarDeviceId hdl strDeviceId).2)
    ∧ (s.addHdlAndSubscribeCarDeviceId hdl strDeviceId).1.topicManager.existsTopic d
      = level (s.topicManager.existsTopic d)
          (marks d (s.addHdlAndSubscribeCarDeviceId hdl strDeviceId).2) := by
  obtain ⟨topic, m, htopic, heq⟩ := s.addHdl_cases hdl strDeviceId
  have hafter : (s.addHdlAndSubscribeCarDeviceId hdl strDeviceId).1.topicManager.existsTopic d
      = (decide (d = generateDeviceId strDeviceId) || s.topicManager.existsTopic d) := by
    rw [heq, Bool.eq_iff_iff, Bool.or_eq_true, decide_eq_true_iff]
    exact CarTopicManager.existsTopic_join htopic
  rw [hafter, heq]
  by_cases hd : d = generateDeviceId strDeviceId
  · subst hd
    cases hexists : s.topicManager.existsTopic (generateDeviceId strDeviceId) with
    | true => simp [marks]
    | false => simp [marks, Call.mark]
  · cases s.topicManager.existsTopic (generateDeviceId strDeviceId) with
    | true => simp [marks, hd]
    | false => simp [marks, Call.mark, hd, Ne.symm hd]

theorem subscribed_removeHdl :
    (s.removeHdlAndUnSubscribeCarDeviceId hdl).1.topicManager.Subscribed x d
      ↔ x ≠ hdl ∧ s.topicManager.Subscribed x d := by
  show ((s.topicManager.removeSubscriber hdl).removeTopics (s.emptied hdl)).Subscribed x d ↔ _
  rw [CarTopicManager.subscribed_removeTopics, CarTopicManager.subscribed_removeSubscriber,
    mem_emptied]
  refine and_iff_right_of_imp fun hsub hempty => ?_
  exact hempty.2 x hsub.1 hsub.2

theorem existsTopic_removeHdl :
    (s.removeHdlAndUnSubscribeCarDeviceId hdl).1.topicManager.existsTopic d = true
      ↔ d ∉ s.emptied hdl ∧ s.topicManager.existsTopic d = true := by
  show ((s.topicManager.removeSubscriber hdl).removeTopics (s.emptied hdl)).existsTopic d = true
    ↔ _
  rw [CarTopicManager.existsTopic_removeTopics, CarTopicManager.existsTopic_removeSubscriber]

theorem Attended.removeHdl (h : s.Attended) :
    (s.removeHdlAndUnSubscribeCarDeviceId hdl).1.Attended := by
  refine ⟨fun d => ?_, fun d hd => h.printable d (existsTopic_removeHdl.mp hd).2⟩
  simp only [existsTopic_removeHdl, subscribed_removeHdl, mem_emptied]
  constructor
  · intro hd
    by_contra hnobody
    exact hd.1 ⟨hd.2, fun x hx hsub => hnobody ⟨x, hx, hsub⟩⟩
  · intro hd
    obtain ⟨x, hx, hsub⟩ := hd
    exact ⟨fun hempty => hempty.2 x hx hsub, hsub.existsTopic⟩

/-- Leaving announces the topics it empties, each by the text of its id. -/
theorem marks_removeHdl (h : s.Attended) : Alternates (s.topicManager.existsTopic d)
      (marks d (s.removeHdlAndUnSubscribeCarDeviceId hdl).2)
    ∧ (s.removeHdlAndUnSubscribeCarDeviceId hdl).1.topicManager.existsTopic d
      = level (s.topicManager.existsTopic d)
          (marks d (s.removeHdlAndUnSubscribeCarDeviceId hdl).2) := by
  have hmarks : marks d (s.removeHdlAndUnSubscribeCarDeviceId hdl).2
      = if d ∈ s.emptied hdl then [false] else [] := by
    have hnodup : (s.emptied hdl).Nodup := CarTopicManager.nodup_getEmptyTopicList
    rw [← filterMap_mark_of_nodup hnodup d false]
    unfold marks
    show ((s.emptied hdl).map _).filterMap _ = (s.emptied hdl).filterMap _
    rw [List.filterMap_map]
    refine List.filterMap_congr fun deviceId hmem => ?_
    have hlt := h.printable deviceId (mem_emptied.mp hmem).1
    rw [Function.comp_apply, Call.mark, generateDeviceId_generateDeviceIdStr s.garbage hlt]
  rw [hmarks]
  by_cases hd : d ∈ s.emptied hdl
  · have hgone : (s.removeHdlAndUnSubscribeCarDeviceId hdl).1.topicManager.existsTopic d
        = false := by
      rw [Bool.eq_false_iff, ne_eq, existsTopic_removeHdl]
      exact fun hstays => hstays.1 hd
    simp [hd, (mem_emptied.mp hd).1, hgone]
  · have hstays : (s.removeHdlAndUnSubscribeCarDeviceId hdl).1.topicManager.existsTopic d
        = s.topicManager.existsTopic d := by
      rw [Bool.eq_iff_iff, existsTopic_removeHdl, and_iff_right hd]
    simp [hd, hstays]

/-- What `onOpen` does with a uri. -/
theorem onOpen_cases (s : CarWebSocketServer) (hdl : ConnectionHdl) (uri : Option (List UInt8)) :
    (∃ strDeviceId, uri = some (strLive ++ strDeviceId) ∧ strDeviceId.length = 14
        ∧ s.onOpen hdl uri = s.addHdlAndSubscribeCarDeviceId hdl strDeviceId)
    ∨ (s.onOpen hdl uri).1 = s ∧ ∀ d, marks d (s.onOpen hdl uri).2 = [] := by
  cases uri with
  | none => exact Or.inr ⟨rfl, fun _ => rfl⟩
  | some uri =>
      simp only [onOpen]
      by_cases hlive : uri.take strLive.length = strLive
      · rw [if_pos hlive]
        by_cases hlen : (uri.drop strLive.length).length = 14
        · refine Or.inl ⟨uri.drop strLive.length, ?_, hlen, if_neg (not_not_intro hlen)⟩
          conv_lhs => rw [← List.take_append_drop strLive.length uri, hlive]
        · rw [if_pos hlen]
          exact Or.inr ⟨rfl, fun _ => rfl⟩
      · rw [if_neg hlive]
        exact Or.inr ⟨rfl, fun _ => rfl⟩

/-- **One event** leaves every topic attended, and its notifications switch
each topic in turn. -/
theorem attended_step (h : s.Attended) {e : Event} (hspelled : e.Spelled) : (s.step e).Attended
    ∧ ∀ d, Alternates (s.topicManager.existsTopic d) (marks d (s.calls e))
      ∧ (s.step e).topicManager.existsTopic d
        = level (s.topicManager.existsTopic d) (marks d (s.calls e)) := by
  cases e with
  | onOpen hdl uri =>
      show (s.onOpen hdl uri).1.Attended ∧ ∀ d, Alternates _ (marks d (s.onOpen hdl uri).2)
        ∧ (s.onOpen hdl uri).1.topicManager.existsTopic d = level _ (marks d (s.onOpen hdl uri).2)
      obtain ⟨strDeviceId, rfl, hlen, heq⟩ | ⟨hsame, hquiet⟩ := s.onOpen_cases hdl uri
      · rw [heq]
        have hlt := generateDeviceId_lt hlen (hspelled strDeviceId rfl hlen)
        exact ⟨h.addHdl hlt, fun d => marks_addHdl⟩
      · rw [hsame]
        refine ⟨h, fun d => ?_⟩
        rw [hquiet d]
        exact ⟨alternates_nil _, rfl⟩
  | onClose hdl => exact ⟨h.removeHdl, fun d => marks_removeHdl h⟩
  | updateData deviceId data =>
      refine ⟨h, fun d => ?_⟩
      have hquiet : marks d (s.updateData deviceId data) = [] := by
        unfold updateData marks
        split
        · rfl
        · simp [Call.mark]
      show Alternates _ (marks d (s.updateData deviceId data))
        ∧ _ = level _ (marks d (s.updateData deviceId data))
      rw [hquiet]
      exact ⟨alternates_nil _, rfl⟩

/-! ## §5. Handles opened once. -/

/-- What is asked of an event: a handle that is opened is not subscribed, and
a car is named by hexadecimal digits. -/
def Event.Allowed (s : CarWebSocketServer) (e : Event) : Prop :=
  e.Spelled ∧ ∀ hdl, e.opened = some hdl → s.subscribers[hdl]? = none

theorem agrees_addHdl (h : s.Exact) (hfree : s.subscribers[hdl]? = none) (x : ConnectionHdl)
    (d : UInt64) :
    (s.addHdlAndSubscribeCarDeviceId hdl strDeviceId).1.topicManager.Subscribed x d
      ↔ ∃ text, (s.addHdlAndSubscribeCarDeviceId hdl strDeviceId).1.subscribers[x]? = some text
          ∧ generateDeviceId text = d := by
  obtain ⟨topic, m, htopic, heq⟩ := s.addHdl_cases hdl strDeviceId
  rw [heq]
  show CarTopicManager.Subscribed _ x d
    ↔ ∃ text, (s.subscribers.insert hdl strDeviceId)[x]? = some text ∧ _
  rw [CarTopicManager.subscribed_join htopic, h.agrees, Std.TreeMap.getElem?_insert]
  simp only [Std.LawfulEqOrd.compare_eq_iff_eq]
  by_cases hx : x = hdl
  · -- it was in no topic before
    subst hx
    simp [hfree, @eq_comm _ d]
  · simp [hx, Ne.symm hx]

theorem agrees_removeHdl (h : s.Exact) (x : ConnectionHdl) (d : UInt64) :
    (s.removeHdlAndUnSubscribeCarDeviceId hdl).1.topicManager.Subscribed x d
      ↔ ∃ text, (s.removeHdlAndUnSubscribeCarDeviceId hdl).1.subscribers[x]? = some text
          ∧ generateDeviceId text = d := by
  rw [subscribed_removeHdl, h.agrees]
  show _ ↔ ∃ text, (s.subscribers.erase hdl)[x]? = some text ∧ _
  rw [Std.TreeMap.getElem?_erase]
  simp only [Std.LawfulEqOrd.compare_eq_iff_eq]
  by_cases hx : x = hdl
  · simp [hx]
  · simp [hx, Ne.symm hx]

/-- Then topics and `m_subscribers` stay in step. -/
theorem exact_step (h : s.Exact) {e : Event} (hallowed : e.Allowed s) : (s.step e).Exact := by
  refine ⟨(attended_step h.toAttended hallowed.1).1, fun x d => ?_⟩
  cases e with
  | onOpen hdl uri =>
      show (s.onOpen hdl uri).1.topicManager.Subscribed x d
        ↔ ∃ text, (s.onOpen hdl uri).1.subscribers[x]? = some text ∧ _
      obtain ⟨strDeviceId, -, -, heq⟩ | ⟨hsame, -⟩ := s.onOpen_cases hdl uri
      · rw [heq]
        exact agrees_addHdl h (hallowed.2 hdl rfl) x d
      · rw [hsame]
        exact h.agrees x d
  | onClose hdl => exact agrees_removeHdl h x d
  | updateData deviceId data => exact h.agrees x d

/-- Only a handle that is opened gets subscribed. -/
theorem subscribers_step {e : Event} (hne : e.opened ≠ some x) (hfree : s.subscribers[x]? = none) :
    (s.step e).subscribers[x]? = none := by
  cases e with
  | onOpen hdl uri =>
      have hx : hdl ≠ x := fun heq => hne (congrArg some heq)
      show (s.onOpen hdl uri).1.subscribers[x]? = none
      obtain ⟨strDeviceId, -, -, heq⟩ | ⟨hsame, -⟩ := s.onOpen_cases hdl uri
      · obtain ⟨topic, m, -, hadd⟩ := s.addHdl_cases hdl strDeviceId
        rw [heq, hadd]
        show (s.subscribers.insert hdl strDeviceId)[x]? = none
        rw [Std.TreeMap.getElem?_insert]
        simp [hx, hfree]
      · rw [hsame]
        exact hfree
  | onClose hdl =>
      show (s.subscribers.erase hdl)[x]? = none
      rw [Std.TreeMap.getElem?_erase]
      split
      · rfl
      · exact hfree
  | updateData deviceId data => exact hfree

/-- Handles opened once each are free when they are opened. -/
theorem allowed_along {events : List Event} (hspelled : ∀ e ∈ events, e.Spelled) :
    ∀ {s : CarWebSocketServer}, (events.filterMap Event.opened).Nodup →
      (∀ hdl ∈ events.filterMap Event.opened, s.subscribers[hdl]? = none) →
      Along step (fun s e => e.Allowed s) s events := by
  induction events with
  | nil => exact fun _ _ => trivial
  | cons e es ih =>
      intro s hnodup hfree
      have hlater := (List.sublist_cons_self e es).filterMap Event.opened
      refine ⟨⟨hspelled e List.mem_cons_self, fun hdl hopened => hfree hdl ?_⟩,
        ih (fun e' he' => hspelled e' (List.mem_cons_of_mem e he')) (hnodup.sublist hlater)
          fun x hx => subscribers_step (fun heq => ?_) (hfree x (hlater.subset hx))⟩
      · exact List.mem_filterMap.mpr ⟨e, List.mem_cons_self, hopened⟩
      · -- it would be opened twice
        rw [List.filterMap_cons, heq] at hnodup
        exact (List.nodup_cons.mp hnodup).1 hx

/-- **Topics are exact and their notifications alternate.**  In every run that
opens each handle at most once, at uris that are rejected or spell the car by
hexadecimal digits: a topic is there exactly while it has a subscriber; a
handle subscribes to a topic exactly while `m_subscribers` maps it to a text
that is parsed as the topic's id; and the notifications about any id take
turns, a subscription first, and end in a subscription exactly if the topic is
there. -/
theorem topics_exact (garbage : UInt8) (events : List Event)
    (honce : (events.filterMap Event.opened).Nodup) (hspelled : ∀ e ∈ events, e.Spelled) :
    let s := run step (new garbage) events
    let history := emitted step calls (new garbage) events
    (∀ d, s.topicManager.existsTopic d = true ↔ ∃ hdl, s.topicManager.Subscribed hdl d)
      ∧ (∀ hdl d, s.topicManager.Subscribed hdl d ↔ ∃ strDeviceId,
          s.subscribers[hdl]? = some strDeviceId ∧ generateDeviceId strDeviceId = d)
      ∧ ∀ d, Alternates false (marks d history)
          ∧ (level false (marks d history) = true ↔ s.topicManager.existsTopic d = true) := by
  intro s history
  have hnew : (new garbage).Exact :=
    ⟨attended_new garbage, fun hdl d => by simp [new, CarTopicManager.Subscribed]⟩
  have halong := allowed_along hspelled (s := new garbage) honce fun hdl _ => by simp [new]
  have hexact : s.Exact :=
    run_invariant (fun s e (h : s.Exact) (he : e.Allowed s) => exact_step h he) hnew halong
  refine ⟨hexact.attended, hexact.agrees, fun d => ?_⟩
  have hkeep : ∀ (s : CarWebSocketServer) (e : Event), s.Attended → e.Spelled →
      (s.step e).Attended := fun s e h he => (attended_step h he).1
  have hturns := alternates_emitted (fun s => s.topicManager.existsTopic d)
    (fun s e => marks d (s.calls e)) hkeep (fun s e h he => (attended_step h he).2 d)
    (attended_new garbage) (along_iff_forall.mpr hspelled)
  have hnone : (new garbage).topicManager.existsTopic d = false := by
    simp [new, CarTopicManager.existsTopic]
  have hmarks : marks d history
      = emitted step (fun s e => marks d (s.calls e)) (new garbage) events :=
    filterMap_emitted _ _ _ _
  rw [hnone, ← hmarks] at hturns
  exact ⟨hturns.1, by rw [hturns.2]⟩

/-- Two handles at two spellings of one car, and one at another car; the first
two leave. -/
theorem topics_exact_two_spellings :
    let car : List UInt8 := List.replicate 12 48 ++ [48, 97]
    let car' : List UInt8 := List.replicate 12 48 ++ [48, 65]
    let other : List UInt8 := List.replicate 14 49
    let events : List Event :=
      [.onOpen 1 (some (strLive ++ car)), .onOpen 2 (some (strLive ++ car')),
        .onOpen 3 (some (strLive ++ other)), .onClose 1, .onClose 2]
    let history := emitted step calls (new 0) events
    marks 10 history = [true, false]
      ∧ ∀ d, Alternates false (marks d history) := by
  intro car car' other events history
  have hspelled : ∀ e ∈ events, e.Spelled := by
    simp only [events, List.forall_mem_cons, List.not_mem_nil, false_imp_iff, implies_true,
      and_true]
    exact ⟨spelled_live 1 (List.all_eq_true.mp rfl), spelled_live 2 (List.all_eq_true.mp rfl),
      spelled_live 3 (List.all_eq_true.mp rfl), trivial, trivial⟩
  have h := topics_exact 0 events (by decide) hspelled
  exact ⟨by decide +kernel, fun d => (h.2.2 d).1⟩

end CarWebSocketServer

end MultiProcessServer
