import ObjectQuery.Value.Basic
/-!
# What is known of a video

The facts that hold for every frame of a video. Each can be read under its name by properties and
outputs.
-/

namespace ObjectQuery

/-- The facts of a video. -/
structure VideoMetadata where
  fps : Float
  frameWidth : Nat
  frameHeight : Nat
  frameCount : Nat

namespace VideoMetadata

def names : List String := ["fps", "frame_width", "frame_height", "n_frames"]

def get? (metadata : VideoMetadata) (name : String) : Option Value :=
  if name = "fps" then some (.float metadata.fps)
  else if name = "frame_width" then some (.ofNat metadata.frameWidth)
  else if name = "frame_height" then some (.ofNat metadata.frameHeight)
  else if name = "n_frames" then some (.ofNat metadata.frameCount)
  else none

/-- Exactly the names of facts have one. -/
theorem isSome_get? (metadata : VideoMetadata) (name : String) :
    (metadata.get? name).isSome ↔ name ∈ names := by
  unfold get? names
  by_cases first : name = "fps"
  · simp [first]
  · by_cases second : name = "frame_width"
    · simp [second]
    · by_cases third : name = "frame_height"
      · simp [third]
      · by_cases fourth : name = "n_frames" <;> simp [first, second, third, fourth]

end VideoMetadata

end ObjectQuery
