/-
  MultiProcessServer.Core.PacketOwnership
  ───────────────────────────────────────
  The special members of `ipc::packet_move_t`, and the buffers they allocate.

  Main results:

    `sound_iff` :
        every buffer has its one owner, exactly when no object is made of an
        empty packet or of an object without data, and none is destroyed that
        still has data;
    `not_sound_posted` :
        so no packet goes through the queue of a thread.

  There is no destructor, and a constructor that allocates nothing leaves
  `m_data` as it found it.
-/
import MultiProcessServer.Core.IpcPacket
import MultiProcessServer.Lib.Owners
import MultiProcessServer.Lib.Runs

namespace MultiProcessServer.Ipc

open Function (update)

/-! ## §1. Objects and their memory. -/

/-- `m_data`, with the payload in its buffer. -/
inductive MData
  | null
  | buffer (b : Nat) (data : List UInt8)
  | indeterminate
  deriving DecidableEq, Repr

/-- The buffer it is the address of. -/
def MData.handle : MData → Option Nat
  | .buffer b _ => some b
  | _ => none

/-- A live `packet_move_t`. -/
structure PacketObject where
  header : Header
  data : MData
  deriving DecidableEq, Repr

namespace PacketObject

/-- What `Clear` and the default constructor leave. -/
def cleared : PacketObject where
  header := { Header.cleared with headLength := UInt32.ofNat sizeofPacketMove }
  data := .null

/-- Before the body of a constructor: nothing is set. -/
def raw : PacketObject := ⟨⟨0, 0, 0, 0⟩, .indeterminate⟩

end PacketObject

/-- The objects by their address, and the buffers. -/
structure PacketObjects where
  object : Nat → Option PacketObject
  ledger : Handles

namespace PacketObjects

def none : PacketObjects := ⟨fun _ => .none, .none⟩

variable (s : PacketObjects)

def put (x : Nat) (o : PacketObject) : PacketObjects :=
  { s with object := update s.object x (some o) }

/-- `Clear`.  A `delete[]` of an indeterminate pointer gives back nothing that is
on the ledger. -/
def clear (x : Nat) : PacketObjects :=
  match s.object x with
  | .none => s
  | some o =>
      { s with ledger := match o.data with
          | .buffer b _ => s.ledger.release b
          | _ => s.ledger }.put x .cleared

/-- `CopyFrom` of a `packet_t`. -/
def copyFromPacket (x : Nat) (other : Packet) : PacketObjects :=
  match s.object x with
  | .none => s
  | some o =>
      let value := PacketMove.copyFrom other []
      if other.header.dataLength > 0 then
        { s with ledger := s.ledger.acquire.2 }.put x
          ⟨value.header, .buffer s.ledger.acquire.1 value.data⟩
      else s.put x ⟨value.header, o.data⟩

/-- `CopyFrom` of a `packet_move_t`.  An indeterminate pointer is taken for one
that is not null. -/
def copyFrom (x other : Nat) : PacketObjects :=
  match s.object x, s.object other with
  | some o, some ⟨header, data⟩ =>
      let copied := { s with ledger := s.ledger.acquire.2 }
      match data with
      | .null => s.put x ⟨header, o.data⟩
      | .buffer _ data => copied.put x
          ⟨header, .buffer s.ledger.acquire.1 (data.take header.dataLength.toNat)⟩
      | .indeterminate => copied.put x ⟨header, .buffer s.ledger.acquire.1 []⟩
  | _, _ => s

/-- `MoveFrom`: the memory is copied, the source forgets its buffer. -/
def moveFrom (x other : Nat) : PacketObjects :=
  match s.object other with
  | .none => s
  | some o => ((s.put x o).put other { o with data := .null }).clear other

/-! ## §2. Runs of operations. -/

/-- A special member, `Clear`, or the end of an object. -/
inductive Event
  | construct (x : Nat)
  | constructPacket (x : Nat) (other : Packet)
  | constructCopy (x other : Nat)
  | constructMove (x other : Nat)
  | assignPacket (x : Nat) (other : Packet)
  | assignCopy (x other : Nat)
  | assignMove (x other : Nat)
  | clear (x : Nat)
  | destroy (x : Nat)
  deriving DecidableEq, Repr

def step (s : PacketObjects) : Event → PacketObjects
  | .construct x => s.put x .cleared
  | .constructPacket x other => (s.put x .raw).copyFromPacket x other
  | .constructCopy x other => (s.put x .raw).copyFrom x other
  | .constructMove x other => (s.put x .raw).moveFrom x other
  | .assignPacket x other => (s.clear x).copyFromPacket x other
  | .assignCopy x other => (s.clear x).copyFrom x other
  | .assignMove x other => (s.clear x).moveFrom x other
  | .clear x => s.clear x
  | .destroy x => { s with object := update s.object x .none }

/-- Objects are made where there is none; everything else is done to live
objects, with live objects. -/
def Enabled : Event → Prop
  | .construct x => s.object x = .none
  | .constructPacket x _ => s.object x = .none
  | .constructCopy x other => s.object x = .none ∧ s.object other ≠ .none
  | .constructMove x other => s.object x = .none ∧ s.object other ≠ .none
  | .assignPacket x _ => s.object x ≠ .none
  | .assignCopy x other => s.object x ≠ .none ∧ s.object other ≠ .none
  | .assignMove x other => s.object x ≠ .none ∧ s.object other ≠ .none
  | .clear x => s.object x ≠ .none
  | .destroy x => s.object x ≠ .none

instance : ∀ e, Decidable (s.Enabled e)
  | .construct _ => inferInstanceAs (Decidable (_ = _))
  | .constructPacket _ _ => inferInstanceAs (Decidable (_ = _))
  | .constructCopy _ _ => inferInstanceAs (Decidable (_ ∧ _))
  | .constructMove _ _ => inferInstanceAs (Decidable (_ ∧ _))
  | .assignPacket _ _ => inferInstanceAs (Decidable (_ ≠ _))
  | .assignCopy _ _ => inferInstanceAs (Decidable (_ ∧ _))
  | .assignMove _ _ => inferInstanceAs (Decidable (_ ∧ _))
  | .clear _ => inferInstanceAs (Decidable (_ ≠ _))
  | .destroy _ => inferInstanceAs (Decidable (_ ≠ _))

/-- The buffer the object at an address owns. -/
def owners (x : Nat) : Option Nat := (s.object x).bind fun o => o.data.handle

/-- `m_data` of the object at an address. -/
def data (x : Nat) : Option MData := (s.object x).map PacketObject.data

/-- Every live object's `m_data` is null or a buffer of its own, and the buffers
that are there are those. -/
structure Sound (s : PacketObjects) : Prop where
  determinate : ∀ x, s.data x ≠ some .indeterminate
  books : Books s.owners s.ledger

/-- No object is made of an empty packet or of an object without data, and none
that has data is destroyed. -/
def Careful : Event → Prop
  | .constructPacket _ other => 0 < other.header.dataLength
  | .constructCopy _ other => s.data other ≠ some .null
  | .destroy x => s.data x = some .null
  | _ => True

instance : ∀ e, Decidable (s.Careful e)
  | .construct _ => inferInstanceAs (Decidable True)
  | .constructPacket _ _ => inferInstanceAs (Decidable (_ < _))
  | .constructCopy _ _ => inferInstanceAs (Decidable (_ ≠ _))
  | .constructMove _ _ => inferInstanceAs (Decidable True)
  | .assignPacket _ _ => inferInstanceAs (Decidable True)
  | .assignCopy _ _ => inferInstanceAs (Decidable True)
  | .assignMove _ _ => inferInstanceAs (Decidable True)
  | .clear _ => inferInstanceAs (Decidable True)
  | .destroy _ => inferInstanceAs (Decidable (_ = _))

variable {s : PacketObjects} {x : Nat} {o : PacketObject} {l : Handles}

/-! ## §3. What a member function leaves. -/

theorem data_eq (hx : s.object x = some o) : s.data x = some o.data := by simp [data, hx]

theorem owners_eq (hx : s.object x = some o) : s.owners x = o.data.handle := by simp [owners, hx]

theorem owners_put (s : PacketObjects) (x : Nat) (o : PacketObject) :
    (s.put x o).owners = update s.owners x o.data.handle := by
  funext y
  by_cases hy : y = x
  · subst hy
    simp [owners, put]
  · simp [owners, put, hy]

theorem data_put_self (s : PacketObjects) (x : Nat) (o : PacketObject) :
    (s.put x o).data x = some o.data := by simp [data, put]

theorem data_put_of_ne {y : Nat} (hy : y ≠ x) : (s.put x o).data y = s.data y := by
  simp [data, put, hy]

theorem object_clear (hx : s.object x = some o) : (s.clear x).object x = some .cleared := by
  simp [clear, hx, put]

/-- A new object leaves the live ones as they are. -/
theorem object_put_of_live {y : Nat} {q : PacketObject} (hx : s.object x = .none)
    (hy : s.object y = some q) : (s.put x o).object y = some q := by
  have hne : y ≠ x := by
    rintro rfl
    exact nomatch hx.symm.trans hy
  exact (Function.update_of_ne hne ..).trans hy

/-- `Clear` ends no object. -/
theorem object_clear_of_live {y : Nat} (hx : s.object x = some o)
    (hy : ∃ q, s.object y = some q) : ∃ q, (s.clear x).object y = some q := by
  by_cases hyx : y = x
  · rw [hyx]
    exact ⟨_, object_clear hx⟩
  · obtain ⟨q, hq⟩ := hy
    refine ⟨q, ?_⟩
    simp only [clear, hx]
    exact (Function.update_of_ne hyx ..).trans hq

/-- The object at `x` owns nothing, and everything else is in order. -/
structure Vacant (s : PacketObjects) (x : Nat) : Prop where
  owns : s.owners x = .none
  others : ∀ y, y ≠ x → s.data y ≠ some .indeterminate
  books : Books s.owners s.ledger

theorem Vacant.sound_put_iff (h : s.Vacant x)
    (hbooks : Books (update s.owners x o.data.handle) l) :
    ({ s with ledger := l }.put x o).Sound ↔ o.data ≠ .indeterminate := by
  constructor
  · intro hsound hdata
    refine hsound.determinate x ?_
    rw [data_put_self, hdata]
  · intro hdata
    -- the other objects are as they were
    refine ⟨fun y => ?_, by rw [owners_put]; exact hbooks⟩
    by_cases hy : y = x
    · rw [hy, data_put_self]
      exact fun heq => hdata (Option.some.inj heq)
    · rw [data_put_of_ne hy]
      exact h.others y hy

/-- **A constructor** starts on memory that owns nothing. -/
theorem Sound.vacant_raw (h : s.Sound) (hx : s.object x = .none) : (s.put x .raw).Vacant x := by
  have howns : s.owners x = .none := by simp [owners, hx]
  refine ⟨by rw [owners_put, Function.update_self]; rfl, fun y hy => ?_, ?_⟩
  · rw [data_put_of_ne hy]
    exact h.determinate y
  · rw [owners_put]
    exact h.books.vacant howns

/-- **`Clear`** gives back what the object owned. -/
theorem Sound.vacant_clear (h : s.Sound) (hx : s.object x = some o) : (s.clear x).Vacant x := by
  have hbooks : Books (update s.owners x .none) (s.clear x).ledger := by
    cases hdata : o.data with
    | buffer b data =>
        have howns : s.owners x = some b := by rw [owners_eq hx, hdata]; rfl
        simp only [clear, hx, put, hdata]
        exact h.books.release howns
    | null | indeterminate =>
        have howns : s.owners x = .none := by rw [owners_eq hx, hdata]; rfl
        simp only [clear, hx, put, hdata]
        exact h.books.vacant howns
  have hput : (s.clear x).owners = update s.owners x .none := by
    simp only [clear, hx]
    exact owners_put ..
  refine ⟨by rw [hput, Function.update_self], fun y hy => ?_, by rw [hput]; exact hbooks⟩
  simp only [clear, hx]
  rw [data_put_of_ne hy]
  exact h.determinate y

theorem Sound.clear (h : s.Sound) (hx : s.object x = some o) : (s.clear x).Sound := by
  have hvacant := h.vacant_clear hx
  refine ⟨fun y => ?_, hvacant.books⟩
  by_cases hy : y = x
  · rw [hy, data_eq (object_clear hx)]
    exact nofun
  · exact hvacant.others y hy

/-- Only the header is written: `m_data` is as the object has it. -/
theorem Vacant.put_header_iff (h : s.Vacant x) (hx : s.object x = some o) (header : Header) :
    (s.put x ⟨header, o.data⟩).Sound ↔ o.data ≠ .indeterminate := by
  refine h.sound_put_iff ?_
  show Books (update s.owners x o.data.handle) s.ledger
  rw [← owners_eq hx, h.owns]
  exact h.books.vacant h.owns

/-- **`CopyFrom` of a packet** leaves `m_data` alone if the packet is empty. -/
theorem Vacant.copyFromPacket_iff (h : s.Vacant x) (hx : s.object x = some o) (other : Packet) :
    (s.copyFromPacket x other).Sound
      ↔ 0 < other.header.dataLength ∨ o.data ≠ .indeterminate := by
  simp only [copyFromPacket, hx, gt_iff_lt]
  by_cases hlen : 0 < other.header.dataLength
  · rw [if_pos hlen]
    refine iff_of_true ((h.sound_put_iff ?_).mpr nofun) (Or.inl hlen)
    exact h.books.acquire h.owns
  · rw [if_neg hlen, or_iff_right hlen]
    exact h.put_header_iff hx _

/-- **`CopyFrom` of an object** leaves `m_data` alone if the other has none. -/
theorem Vacant.copyFrom_iff (h : s.Vacant x) (hx : s.object x = some o) {other : Nat}
    {q : PacketObject} (hother : s.object other = some q) :
    (s.copyFrom x other).Sound ↔ q.data ≠ .null ∨ o.data ≠ .indeterminate := by
  obtain ⟨header, data⟩ := q
  simp only [copyFrom, hx, hother]
  cases data with
  | null =>
      rw [or_iff_right (fun hne => hne rfl)]
      exact h.put_header_iff hx header
  | buffer _ _ | indeterminate =>
      refine iff_of_true ((h.sound_put_iff ?_).mpr nofun) (Or.inl nofun)
      exact h.books.acquire h.owns

theorem moveFrom_eq {other : Nat} (hother : s.object other = some o) :
    s.moveFrom x other = (s.put x o).put other .cleared := by
  simp [moveFrom, hother, clear, put]

/-- **`MoveFrom`** hands the buffer over, also to the object itself. -/
theorem Vacant.moveFrom (h : s.Vacant x) {other : Nat} (hother : s.object other = some o) :
    (s.moveFrom x other).Sound := by
  rw [moveFrom_eq hother]
  refine ⟨fun y => ?_, ?_⟩
  · by_cases hy : y = other
    · rw [hy, data_put_self]
      exact nofun
    · rw [data_put_of_ne hy]
      by_cases hyx : y = x
      · rw [hyx, data_put_self, ← data_eq hother]
        exact h.others other fun heq => hy (hyx.trans heq.symm)
      · rw [data_put_of_ne hyx]
        exact h.others y hyx
  · rw [owners_put, owners_put]
    show Books (update (update s.owners x o.data.handle) other .none) s.ledger
    have hhandle := owners_eq hother
    cases hdata : o.data.handle with
    | some b => exact h.books.move h.owns (hhandle.trans hdata)
    | none =>
        refine (h.books.vacant h.owns).vacant ?_
        by_cases heq : other = x
        · rw [heq, Function.update_self]
        · rw [Function.update_of_ne heq, hhandle, hdata]

/-- **The end of an object** is in order if it has no data. -/
theorem Sound.destroy_iff (h : s.Sound) (hx : s.object x = some o) :
    ({ s with object := update s.object x .none } : PacketObjects).Sound ↔ o.data = .null := by
  have hdeterminate : ∀ y, (⟨update s.object x .none, s.ledger⟩ : PacketObjects).data y
      ≠ some .indeterminate := by
    intro y
    by_cases hy : y = x
    · simp [data, hy]
    · simpa [data, hy] using h.determinate y
  have howners : (⟨update s.object x .none, s.ledger⟩ : PacketObjects).owners
      = update s.owners x .none := by
    funext y
    by_cases hy : y = x
    · subst hy
      simp [owners]
    · simp [owners, hy]
  cases hdata : o.data with
  | null =>
      refine iff_of_true ⟨hdeterminate, ?_⟩ rfl
      rw [howners]
      exact h.books.vacant (by rw [owners_eq hx, hdata]; rfl)
  | indeterminate => exact absurd ((data_eq hx).trans (congrArg some hdata)) (h.determinate x)
  | buffer b data =>
      refine iff_of_false (fun hsound => ?_) nofun
      have hbooks := hsound.books
      rw [howners] at hbooks
      exact h.books.not_forget (by rw [owners_eq hx, hdata]; rfl) hbooks

/-! ## §4. Every sequence of operations. -/

/-- **One operation** keeps the ownership in order exactly if it is careful. -/
theorem sound_step_iff (h : s.Sound) (e : Event) (he : s.Enabled e) :
    (s.step e).Sound ↔ s.Careful e := by
  -- a live object, by its address
  have hlive : ∀ {y : Nat}, s.object y ≠ .none → ∃ o, s.object y = some o := fun hy =>
    Option.ne_none_iff_exists'.mp hy
  have hraw : ∀ y, (s.put y .raw).object y = some .raw := fun y => Function.update_self ..
  cases e with
  | construct y =>
      have howns : s.owners y = .none := by rw [owners, he]; rfl
      have hvacant : s.Vacant y := ⟨howns, fun z _ => h.determinate z, h.books⟩
      refine iff_of_true ((hvacant.sound_put_iff ?_).mpr nofun) trivial
      exact h.books.vacant howns
  | constructPacket y other =>
      refine ((h.vacant_raw he).copyFromPacket_iff (hraw y) other).trans ?_
      exact or_iff_left fun hne => hne rfl
  | constructCopy y other =>
      obtain ⟨hy, hother⟩ := he
      obtain ⟨q, hq⟩ := hlive hother
      refine ((h.vacant_raw hy).copyFrom_iff (hraw y) (object_put_of_live hy hq)).trans ?_
      show q.data ≠ .null ∨ _ ↔ s.data other ≠ some .null
      rw [or_iff_left fun hne => hne rfl, data_eq hq]
      exact not_congr (Option.some_inj).symm
  | constructMove y other =>
      obtain ⟨hy, hother⟩ := he
      obtain ⟨q, hq⟩ := hlive hother
      exact iff_of_true ((h.vacant_raw hy).moveFrom (object_put_of_live hy hq)) trivial
  | assignPacket y other =>
      -- the assignments clear first, so `m_data` is null
      obtain ⟨o, hy⟩ := hlive he
      exact iff_of_true (((h.vacant_clear hy).copyFromPacket_iff (object_clear hy) other).mpr
        (Or.inr nofun)) trivial
  | assignCopy y other =>
      obtain ⟨o, hy⟩ := hlive he.1
      obtain ⟨q, hq⟩ := object_clear_of_live hy (hlive he.2)
      exact iff_of_true (((h.vacant_clear hy).copyFrom_iff (object_clear hy) hq).mpr
        (Or.inr nofun)) trivial
  | assignMove y other =>
      obtain ⟨o, hy⟩ := hlive he.1
      obtain ⟨q, hq⟩ := object_clear_of_live hy (hlive he.2)
      exact iff_of_true ((h.vacant_clear hy).moveFrom hq) trivial
  | clear y =>
      obtain ⟨o, hy⟩ := hlive he
      exact iff_of_true (h.clear hy) trivial
  | destroy y =>
      obtain ⟨o, hy⟩ := hlive he
      refine (h.destroy_iff hy).trans ?_
      show o.data = .null ↔ s.data y = some .null
      rw [data_eq hy]
      exact (Option.some_inj).symm

/-- With the last object gone, every buffer was released once. -/
theorem Sound.released (h : s.Sound) (hnone : ∀ x, s.object x = .none) {b : Nat}
    (hb : b < s.ledger.created) : s.ledger.released.count b = 1 := by
  refine h.books.balanced.gone b hb ?_
  rintro ⟨x, hx⟩
  rw [owners, hnone x] at hx
  cases hx

/-- **A posted packet**: `PostPacket` makes an object of it for the queue, and
the thread drops the object when it is done.  One of the two is wrong for every
packet. -/
theorem not_sound_posted (h : s.Sound) (hx : s.object x = .none) (packet : Packet) :
    ¬∀ pre, pre <+: [Event.constructPacket x packet, .destroy x] →
      (Runs.run step s pre).Sound := by
  intro hall
  have hposted : (s.step (.constructPacket x packet)).Sound :=
    hall [.constructPacket x packet] (List.prefix_append _ [Event.destroy x])
  have hdone : ((s.step (.constructPacket x packet)).step (.destroy x)).Sound :=
    hall [.constructPacket x packet, .destroy x] List.prefix_rfl
  have hlen := (sound_step_iff h (.constructPacket x packet) hx).mp hposted
  have hobject : (s.step (.constructPacket x packet)).object x
      = some ⟨(PacketMove.copyFrom packet []).header, .buffer s.ledger.created packet.data⟩ := by
    have hlen : packet.header.dataLength > 0 := hlen
    simp [step, copyFromPacket, put, hlen, Handles.acquire, PacketMove.copyFrom]
  -- the buffer is still there when the object ends
  exact nomatch (hposted.destroy_iff hobject).mp hdone

theorem sound_none : none.Sound := ⟨fun _ => nofun, .none⟩

/-- **When `packet_move_t` owns its buffers.**  In every sequence of
constructions, assignments, `Clear`s and destructions of any number of objects:
`m_data` of every live object is at every moment null or a buffer no other has,
and the buffers not owned were released once each, exactly when no object is
constructed of an empty packet or of an object whose `m_data` is null, and none
is destroyed whose `m_data` is not. -/
theorem sound_iff (events : List Event) (henabled : Runs.Along step Enabled none events) :
    (∀ pre, pre <+: events → (Runs.run step none pre).Sound)
      ↔ Runs.Along step Careful none events :=
  Runs.always_iff_along Sound (J := Sound) (fun _ e h he hC => (sound_step_iff h e he).mpr hC)
    (fun _ e h he => sound_step_iff h e he) sound_none sound_none henabled

/-- A packet of two bytes. -/
def twoBytes : Packet := ⟨⟨16, 2, 0, IPC_PKT_TYPE_JT1078_PACKET⟩, [1, 2], rfl⟩

/-- Objects that are copied, moved, assigned to themselves, and cleared before
they end. -/
theorem sound_cleared :
    let events : List Event := [.constructPacket 0 twoBytes, .construct 1, .assignCopy 1 0,
      .constructCopy 2 1, .constructMove 3 2, .assignMove 3 3, .assignMove 1 0, .assignCopy 1 1,
      .assignPacket 2 twoBytes, .clear 2, .destroy 0, .destroy 1, .destroy 2, .destroy 3]
    ∀ pre, pre <+: events → (Runs.run step none pre).Sound := by
  intro events
  exact (sound_iff events (by decide +kernel)).mpr (by decide +kernel)

/-- A packet that goes through the queue; a copy of an object without data, and
an object of a packet without data. -/
theorem not_sound_queue :
    ¬(∀ pre, pre <+: [Event.constructPacket 0 twoBytes, .destroy 0] →
        (Runs.run step none pre).Sound)
      ∧ ¬(Runs.run step none [.construct 0, .constructCopy 1 0]).Sound
      ∧ ¬(Runs.run step none [.constructPacket 0 ⟨⟨16, 0, 0, 2⟩, [], rfl⟩]).Sound := by
  refine ⟨not_sound_posted sound_none rfl twoBytes, fun h => ?_, fun h => ?_⟩
  · exact h.determinate 1 rfl
  · exact h.determinate 0 rfl

end PacketObjects

end MultiProcessServer.Ipc
