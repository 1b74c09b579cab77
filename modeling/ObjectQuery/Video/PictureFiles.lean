import ObjectQuery.Bitmap.Bmp
import ObjectQuery.Host.Basic
import ObjectQuery.Host.Path
import ObjectQuery.Launch.Config
import ObjectQuery.Video.Source
/-!
# Videos made of picture files

The picture files of a directory in the order of their names, one a frame. The first one gives the
measures that all others must have.
-/

namespace ObjectQuery

/-- A picture file with its bytes, or why it cannot be read. -/
structure PictureFile where
  path : String
  content : Except String ByteArray

namespace PictureFile

def extensions : List String := ["png", "jpg", "jpeg", "bmp"]

/-- Whether a name has the extension of a picture file, in either case of letters. -/
def hasPictureExtension (name : String) : Bool :=
  match Path.extension? name with
  | some extension => extensions.contains (Path.lowered extension)
  | none => false

/-- Whether a file is said to be of the kind that can be decoded. -/
def isBmp (file : PictureFile) : Bool :=
  (Path.extension? file.path).map Path.lowered == some "bmp"

def decoded {α : Type} (file : PictureFile) (decode : ByteArray → Option α) : Except String α :=
  match file.content with
  | .error message => .error (file.path ++ ": " ++ message)
  | .ok bytes =>
    if file.isBmp then
      match decode bytes with
      | some result => .ok result
      | none => .error (file.path ++ ": not a bitmap that can be decoded")
    else .error (file.path ++ ": the format is not supported")

/-- The file as a frame of a video with the given measures. -/
def frame (file : PictureFile) (id width height : Nat) : Except ServiceError RawFrame :=
  match file.decoded Bmp.bitmap? with
  | .error message => .error (.videoDecode id message)
  | .ok bitmap =>
    if bitmap.width = width ∧ bitmap.height = height then .ok ⟨id, some bitmap⟩
    else
      .error (.videoDecode id (file.path ++ ": size (" ++ toString bitmap.width ++ ", " ++
        toString bitmap.height ++ ") differs from " ++ toString width ++ "x" ++ toString height))

end PictureFile

namespace VideoSource

def ofPictureFiles (files : List PictureFile) (fps : Float) (directory : String) :
    Except ServiceError VideoSource :=
  match files with
  | [] => .error (.configValidation "video.path" ("no image files in " ++ directory))
  | first :: _ =>
    match first.decoded Bmp.header? with
    | .error message => .error (.videoDecode 1 message)
    | .ok header =>
      .ok {
        metadata := ⟨fps, header.width, header.height, files.length⟩
        length := files.length
        frameAt := fun position =>
          match files[position]? with
          | some file => file.frame (position + 1) header.width header.height
          | none => .error (.videoExhausted files.length) }

variable {m : Type → Type} [Monad m] [Host m]

/-- The picture file of a name in a directory, if it is one. -/
def pictureFile? (directory name : String) : m (Option PictureFile) := do
  let path := Path.join directory name
  if PictureFile.hasPictureExtension name then
    match ← Host.kindOf path with
    | some .file =>
      let content ← Host.readFile path
      return some ⟨path, content⟩
    | _ => return none
  else return none

def openDirectory (directory : String) (fps : Float) : m (Except ServiceError VideoSource) := do
  match ← Host.entries directory with
  | .error message => return .error (.io message)
  | .ok names =>
    let sorted := names.mergeSort fun a b => decide (a ≤ b)
    let files ← sorted.mapM (pictureFile? directory)
    return ofPictureFiles (files.filterMap id) fps directory

def openConfigured : VideoConfig → m (Except ServiceError VideoSource)
  | .imageDir path fps => openDirectory path fps
  | .blank metadata => return .ok (blank metadata)

end VideoSource

end ObjectQuery
