import ObjectQuery.Video.Metadata
/-!
# Names with a fixed meaning

Built-in fields are written by the detector and the tracker. Synthetic names are read from the frame
instead of the object: the picture cut to the object's box, the number of the frame, and the facts of
the video.
-/

namespace ObjectQuery.Field

def box : String := "tlbr"
def score : String := "score"
def classId : String := "class_id"
def trackId : String := "track_id"

def image : String := "image"

def frameId : String := "frame_id"

def fps : String := "fps"

def builtin : List String := [box, score, classId, trackId]

def synthetic : List String := image :: frameId :: VideoMetadata.names

def isBuiltin (name : String) : Bool := builtin.contains name

def isSynthetic (name : String) : Bool := synthetic.contains name

/-- Whether a name means the same for every type of object. -/
def isFixed (name : String) : Bool := isBuiltin name || isSynthetic name

end ObjectQuery.Field
