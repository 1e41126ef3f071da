import HttpDispatch.Body.Reader

/-!
Bodies as a transport takes them: a sequence of frames, of which a failure is the last.
-/

namespace HttpDispatch

inductive Frames where
  /-- At most one frame, known from the start. -/
  | once (bytes : Option Bytes)
  /-- Frames that were read from a stream and sent on. -/
  | stream (items : List (Except IoFault Bytes))

/-- Bounds on a number of bytes. -/
structure SizeHint where
  lower : Nat
  upper : Option Nat
  deriving DecidableEq

namespace SizeHint

def exactly (size : Nat) : SizeHint := ⟨size, some size⟩

def unknown : SizeHint := ⟨0, none⟩

end SizeHint

structure ChannelBody where
  frames : Frames
  size : Option Nat

/-- The frames of a body that has to be read: its non-empty blocks, and the first failure of
opening, reading or closing it. A panic of the supply ends the frames as if it were the end of the
stream: the thread that reads them is gone, and nothing says so. -/
def Body.streamItems (body : Body) : List (Except IoFault Bytes) :=
  match body.open with
  | .error stop => stop.fault?.toList.map .error
  | .ok reader =>
    let (blocks, stop, reader) := reader.blocks false
    let failure := match stop with
      | some stop => stop.fault?
      | none => reader.close
    blocks.map .ok ++ failure.toList.map .error

def Body.toChannel (body : Body) : ChannelBody where
  frames := match body.source with
    | .empty => .once none
    | .once bytes _ => .once (some bytes)
    | .reader _ | .producer _ => .stream body.streamItems
  size := body.size

namespace ChannelBody

def empty : ChannelBody := ⟨.once none, some 0⟩

def poll (channel : ChannelBody) : Option (Except IoFault Bytes) × ChannelBody :=
  match channel.frames with
  | .once bytes => (bytes.map .ok, { channel with frames := .once none })
  | .stream [] => (none, channel)
  | .stream (item :: items) => (some item, { channel with frames := .stream items })

/-- Polls up to `most` times: the frames, and the failure that ended them, if one did. -/
def pollUpTo : Nat → ChannelBody → List Bytes × Option IoFault
  | 0, _ => ([], none)
  | most + 1, channel =>
    match channel.poll with
    | (none, _) => ([], none)
    | (some (.error fault), _) => ([], some fault)
    | (some (.ok bytes), channel) =>
      let later := pollUpTo most channel
      (bytes :: later.1, later.2)

/-- Whether it is known that no frame will come. -/
def isEndStream (channel : ChannelBody) : Bool :=
  match channel.frames with
  | .once none => true
  | _ => false

/-- The bounds that are announced for what is still to come. -/
def sizeHint (channel : ChannelBody) : SizeHint :=
  match channel.size with
  | some size => .exactly size
  | none => .unknown

def exactSize (channel : ChannelBody) : Option Nat := channel.size

/-- The items that polling to the end gives. -/
def items (channel : ChannelBody) : List (Except IoFault Bytes) :=
  match channel.frames with
  | .once bytes => bytes.toList.map .ok
  | .stream items => items

theorem poll_eq (channel : ChannelBody) :
    channel.poll.1 = channel.items.head? ∧ channel.poll.2.items = channel.items.tail := by
  obtain ⟨frames, size⟩ := channel
  cases frames with
  | once bytes => cases bytes <;> simp [poll, items]
  | stream items => cases items <;> simp [poll, ChannelBody.items]

end ChannelBody

end HttpDispatch
