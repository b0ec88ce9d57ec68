/-
  MultiProcessServer.ForwardServer.Publisher
  ──────────────────────────────────────────
  `forward::Channel` and `forward::Publisher`: the channels of a server, one
  for each device, with their subscribers.

  `Publisher.Subscribed` is what the channel maps mean.  Each operation has
  ONE lemma that says what it does to that relation; nothing later looks at
  the maps again.
-/
import MultiProcessServer.ForwardServer.Subscriber
import MultiProcessServer.Lib.Sweep

namespace MultiProcessServer.Forward

/-- What the `SubscriberPtr`s point to; a pointer is the id of its session. -/
abbrev Sessions := UInt64 → Subscriber

/-! ## §1. `class Channel`. -/

structure Channel where
  channelId : UInt64
  mapSubscriber : Std.TreeSet UInt64

namespace Channel

def new (channelId : UInt64) : Channel where
  channelId := channelId
  mapSubscriber := ∅

variable (c : Channel)

def empty : Bool := c.mapSubscriber.isEmpty

def getChannelId : UInt64 := c.channelId

def addSubscriber (sessionId : UInt64) : Channel :=
  { c with mapSubscriber := c.mapSubscriber.insert sessionId }

def delSubscriber (sessionId : UInt64) : Channel :=
  { c with mapSubscriber := c.mapSubscriber.erase sessionId }

/-- `Channel::SendMsg`: the channel and the sessions after it, and the ids of
the sessions whose `SendMsg` was called, in order. -/
def sendMsg (message : Message) (sessions : Sessions) : Channel × Sessions × List UInt64 :=
  let (mapSubscriber, sessions, sent) :=
    Container.treeSet.broadcast Subscriber.isCanWrite (fun s => (s.sendMsg message).2)
      c.mapSubscriber sessions
  ({ c with mapSubscriber := mapSubscriber }, sessions, sent)

variable {c} {s x : UInt64}

@[simp] theorem mem_addSubscriber :
    s ∈ (c.addSubscriber x).mapSubscriber ↔ s = x ∨ s ∈ c.mapSubscriber := by
  unfold addSubscriber
  rw [Std.TreeSet.mem_insert, Std.LawfulEqOrd.compare_eq_iff_eq, @eq_comm _ x]

@[simp] theorem mem_delSubscriber :
    s ∈ (c.delSubscriber x).mapSubscriber ↔ s ≠ x ∧ s ∈ c.mapSubscriber := by
  rw [delSubscriber, Std.TreeSet.mem_erase, ne_eq, Std.LawfulEqOrd.compare_eq_iff_eq,
    @eq_comm _ x]

end Channel

/-! ## §2. `class Publisher`. -/

structure Publisher where
  mapChannel : Std.TreeMap UInt64 Channel

namespace Publisher

variable (p : Publisher)

/-- `Exists`. -/
def exists' (channelId : UInt64) : Bool := p.mapChannel.contains channelId

def createChannel (channelId : UInt64) : Publisher :=
  { p with mapChannel := p.mapChannel.insert channelId (.new channelId) }

def addSubscriber (channelId sessionId : UInt64) : Publisher :=
  match p.mapChannel[channelId]? with
  | none => p
  | some channel =>
      { p with mapChannel := p.mapChannel.insert channelId (channel.addSubscriber sessionId) }

/-- `DelSubscriber(channel_id, session_id)`. -/
def delSubscriber (channelId sessionId : UInt64) : Publisher :=
  match p.mapChannel[channelId]? with
  | none => p
  | some channel =>
      { p with mapChannel := p.mapChannel.insert channelId (channel.delSubscriber sessionId) }

/-- `DelSubscriber(session_id)`, from every channel. -/
def delSubscriberAll (sessionId : UInt64) : Publisher :=
  { p with mapChannel := p.mapChannel.map fun _ channel => channel.delSubscriber sessionId }

/-- `Publish`; the last component as in `Channel.sendMsg`. -/
def publish (channelId : UInt64) (message : Message) (sessions : Sessions) :
    Publisher × Sessions × List UInt64 :=
  match p.mapChannel[channelId]? with
  | none => (p, sessions, [])
  | some channel =>
      let (channel, sessions, sent) := channel.sendMsg message sessions
      ({ p with mapChannel := p.mapChannel.insert channelId channel }, sessions, sent)

/-! ## §3. What the maps mean. -/

/-- The session is in the channel. -/
def Subscribed (sessionId channelId : UInt64) : Prop :=
  ∃ channel, p.mapChannel[channelId]? = some channel ∧ sessionId ∈ channel.mapSubscriber

variable {p} {s d : UInt64}

theorem subscribed_of_getElem {channel : Channel} (h : p.mapChannel[d]? = some channel) :
    p.Subscribed s d ↔ s ∈ channel.mapSubscriber := by
  simp [Subscribed, h]

theorem not_subscribed_of_none (h : p.mapChannel[d]? = none) : ¬p.Subscribed s d := by
  simp [Subscribed, h]

/-- Writing one channel leaves the others. -/
theorem subscribed_insert (channelId : UInt64) (channel : Channel) :
    ({ p with mapChannel := p.mapChannel.insert channelId channel } : Publisher).Subscribed s d
      ↔ if d = channelId then s ∈ channel.mapSubscriber else p.Subscribed s d := by
  simp only [Subscribed, Std.TreeMap.getElem?_insert, Std.LawfulEqOrd.compare_eq_iff_eq]
  by_cases h : d = channelId
  · simp [h]
  · simp [h, Ne.symm h]

theorem exists'_iff {channelId : UInt64} :
    p.exists' channelId = true ↔ ∃ channel, p.mapChannel[channelId]? = some channel := by
  unfold exists'
  rw [Std.TreeMap.contains_eq_isSome_getElem?, Option.isSome_iff_exists]

/-- A new channel has no subscribers. -/
theorem subscribed_createChannel {channelId : UInt64} (h : p.exists' channelId = false) :
    (p.createChannel channelId).Subscribed s d ↔ p.Subscribed s d := by
  unfold createChannel
  rw [subscribed_insert]
  split
  next heq =>
      subst heq
      have hnone : p.mapChannel[d]? = none := by
        rw [exists', Std.TreeMap.contains_eq_isSome_getElem?, Option.isSome_eq_false_iff,
          Option.isNone_iff_eq_none] at h
        exact h
      simp [not_subscribed_of_none hnone, Channel.new]
  next => rfl

theorem subscribed_addSubscriber {channelId sessionId : UInt64}
    (h : p.exists' channelId = true) :
    (p.addSubscriber channelId sessionId).Subscribed s d
      ↔ (s = sessionId ∧ d = channelId) ∨ p.Subscribed s d := by
  obtain ⟨channel, hchannel⟩ := exists'_iff.mp h
  simp only [addSubscriber, hchannel, subscribed_insert]
  split
  next heq =>
      subst heq
      simp [subscribed_of_getElem hchannel]
  next hne => simp [hne]

theorem subscribed_delSubscriber {channelId sessionId : UInt64} :
    (p.delSubscriber channelId sessionId).Subscribed s d
      ↔ ¬(s = sessionId ∧ d = channelId) ∧ p.Subscribed s d := by
  unfold delSubscriber
  split
  next hnone =>
      refine ⟨fun hsub => ⟨?_, hsub⟩, And.right⟩
      intro hleft
      obtain ⟨-, rfl⟩ := hleft
      exact not_subscribed_of_none hnone hsub
  next channel hchannel =>
      rw [subscribed_insert]
      split
      next heq =>
          subst heq
          simp [subscribed_of_getElem hchannel]
      next hne => simp [hne]

theorem subscribed_delSubscriberAll {sessionId : UInt64} :
    (p.delSubscriberAll sessionId).Subscribed s d ↔ s ≠ sessionId ∧ p.Subscribed s d := by
  simp only [Subscribed, delSubscriberAll, Std.TreeMap.getElem?_map]
  cases p.mapChannel[d]? with
  | none => simp
  | some channel => simp

/-! ## §4. Publishing. -/

section Publish

variable {channelId : UInt64} {message : Message} {sessions : Sessions}

/-- The subscribers of the channel, and no others, are offered the message. -/
theorem publish_sessions [Decidable (p.Subscribed s channelId)] :
    (p.publish channelId message sessions).2.1 s
      = if p.Subscribed s channelId
        then Container.offered Subscriber.isCanWrite (fun s => (s.sendMsg message).2) (sessions s)
        else sessions s := by
  unfold publish
  split
  next hnone => rw [if_neg (not_subscribed_of_none hnone)]
  next channel hchannel =>
      simp only [Channel.sendMsg, Container.broadcast_heap, Container.mem_keys_treeSet,
        subscribed_of_getElem hchannel]

/-- A subscriber that cannot be written to afterwards leaves the channel. -/
theorem subscribed_publish :
    (p.publish channelId message sessions).1.Subscribed s d
      ↔ p.Subscribed s d ∧ (d = channelId →
          ((p.publish channelId message sessions).2.1 s).isCanWrite = true) := by
  unfold publish
  split
  next hnone =>
      refine ⟨fun hsub => ⟨hsub, ?_⟩, And.left⟩
      intro heq
      subst heq
      exact absurd hsub (not_subscribed_of_none hnone)
  next channel hchannel =>
      simp only [subscribed_insert]
      split
      next heq =>
          subst heq
          simp only [Channel.sendMsg, ← Container.mem_keys_treeSet, Container.mem_broadcast,
            subscribed_of_getElem hchannel, forall_const]
      next hne => simp [hne]

/-- **`Publish` calls `SendMsg` on the writable subscribers of the channel,
once on each.** -/
theorem publish_sent :
    (p.publish channelId message sessions).2.2.Nodup
      ∧ ∀ s, s ∈ (p.publish channelId message sessions).2.2
          ↔ p.Subscribed s channelId ∧ (sessions s).isCanWrite = true := by
  unfold publish
  split
  next hnone => simp [not_subscribed_of_none hnone]
  next channel hchannel =>
      simp only [Channel.sendMsg, Container.broadcast_reached, List.mem_filter,
        Container.mem_keys_treeSet, subscribed_of_getElem hchannel, implies_true, and_true]
      exact (Container.nodup_of_ordered (Container.treeSet.ordered _)).filter _

end Publish

end Publisher

end MultiProcessServer.Forward
