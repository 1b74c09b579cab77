import ObjectQuery.Error
import ObjectQuery.Frame
/-!
# Video sources

A source says in advance what is known of its video and how many frames there are, and delivers or
fails to deliver each of them. The stages of a query read its frames as a stream, and a playback is a
stream with the number of frames delivered so far.
-/

namespace ObjectQuery

/-- Where the frames of a video come from. -/
structure VideoSource where
  metadata : VideoMetadata
  /-- The number of frames. -/
  length : Nat
  /-- The frame at a position, counted from zero. -/
  frameAt : Nat → Except ServiceError RawFrame

namespace VideoSource

/-- Frames numbered from one and without pictures. -/
def blank (metadata : VideoMetadata) : VideoSource where
  metadata := metadata
  length := metadata.frameCount
  frameAt position := .ok ⟨position + 1, none⟩

/-- The frame at a position, an error past the end. -/
def deliver (source : VideoSource) (position : Nat) : Except ServiceError RawFrame :=
  if position < source.length then source.frameAt position
  else .error (.videoExhausted source.metadata.frameCount)

end VideoSource

/-- Frames in their order, each of which may fail. -/
structure FrameStream where
  /-- The number of frames. -/
  length : Nat
  /-- The frame at a position, counted from zero. -/
  frameAt : Nat → Except RunError Frame

namespace FrameStream

def ofList (frames : List Frame) : FrameStream where
  length := frames.length
  frameAt position :=
    match frames[position]? with
    | some frame => .ok frame
    | none => .error .exhausted

def ofVideo (source : VideoSource) : FrameStream where
  length := source.length
  frameAt position :=
    match source.frameAt position with
    | .ok raw => .ok (.ofRaw raw source.metadata)
    | .error error => .error (.service error)

end FrameStream

/-- A stream that is being read. -/
structure Playback where
  stream : FrameStream
  /-- The number of frames delivered. -/
  position : Nat

namespace Playback

def start (stream : FrameStream) : Playback := ⟨stream, 0⟩

def remaining (playback : Playback) : Nat := playback.stream.length - playback.position

def hasNext (playback : Playback) : Bool := decide (playback.position < playback.stream.length)

/-- The next frame. A frame that fails stays the next one. -/
def pull (playback : Playback) : Playback × Except RunError Frame :=
  if playback.hasNext then
    match playback.stream.frameAt playback.position with
    | .ok frame => ({ playback with position := playback.position + 1 }, .ok frame)
    | .error error => (playback, .error error)
  else (playback, .error .exhausted)

/-- A delivered frame is one less that remains. -/
theorem remaining_of_pull {playback after : Playback} {frame : Frame}
    (delivered : playback.pull = (after, .ok frame)) :
    after.remaining + 1 = playback.remaining := by
  unfold pull at delivered
  split at delivered
  · rename_i more
    have room : playback.position < playback.stream.length := of_decide_eq_true more
    cases outcome : playback.stream.frameAt playback.position with
    | ok found =>
      simp only [outcome, Prod.mk.injEq] at delivered
      rw [← delivered.1]
      simp only [remaining]
      omega
    | error error => simp [outcome] at delivered
  · simp at delivered

end Playback

end ObjectQuery
