import ReleaseDesk.Text.Encoding
import ReleaseDesk.Wire.Choice
import ReleaseDesk.Wire.Codec

/-! Contents of results. Resource contents are text or a Base64 blob; a content item of a tool
result is a text, an image or an embedded resource. -/

namespace ReleaseDesk.Protocol

open ReleaseDesk.Wire ReleaseDesk.Text

structure TextContents where
  uri : String
  mimeType : Option String := none
  text : String
deriving DecidableEq

def TextContents.record : Record TextContents where
  title := "struct TextResourceContents"
  fields := TextContents.mk
    <$> required "uri" .string (·.uri)
    <*> optional "mimeType" .string (·.mimeType)
    <*> required "text" .string (·.text)

structure BlobContents where
  uri : String
  mimeType : Option String := none
  blob : String
deriving DecidableEq

def BlobContents.record : Record BlobContents where
  title := "struct BlobResourceContents"
  fields := BlobContents.mk
    <$> required "uri" .string (·.uri)
    <*> optional "mimeType" .string (·.mimeType)
    <*> required "blob" .string (·.blob)

inductive ResourceContents
  | text (contents : TextContents)
  | blob (contents : BlobContents)
deriving DecidableEq

namespace ResourceContents

/-- An untagged union, with text tried first. -/
def codec : Codec ResourceContents where
  read _ := Codec.readAside <| Codec.readFirst "ResourceContents" [
    fun d => (TextContents.record.read .aside d).map text,
    fun d => (BlobContents.record.read .aside d).map blob]
  write
    | text t => TextContents.record.codec.write t
    | blob b => BlobContents.record.codec.write b

def ofText (uri s : String) : ResourceContents :=
  text { uri, mimeType := some "text/plain", text := s }

def ofJson (uri : String) (v : Json) : ResourceContents :=
  text { uri, mimeType := some "application/json", text := v.pretty }

def ofBytes (uri : String) (bytes : List UInt8) (mimeType : String) : ResourceContents :=
  blob { uri, mimeType := some mimeType, blob := Base64.encode bytes }

def uri : ResourceContents → String
  | text t => t.uri
  | blob b => b.uri

def text? : ResourceContents → Option String
  | text t => some t.text
  | blob _ => none

end ResourceContents

inductive Content
  | text (text : String)
  | image (data mimeType : String)
  | resource (resource : ResourceContents)
deriving DecidableEq

namespace Content

def textRecord : Record String where
  title := "struct variant Content::Text"
  fields := required "text" .string id

def imageRecord : Record (String × String) where
  title := "struct variant Content::Image"
  fields := Prod.mk
    <$> required "data" .string (·.1)
    <*> required "mimeType" .string (·.2)

def resourceRecord : Record ResourceContents where
  title := "struct variant Content::Resource"
  fields := required "resource" ResourceContents.codec id

/-- Content items, tagged by `type`. -/
def tagged : Tagged Content where
  title := "Content"
  tag := "type"
  kinds := [
    ("text", fun d => (textRecord.read .aside d).map text),
    ("image", fun d => (imageRecord.read .aside d).map fun (data, mimeType) => image data mimeType),
    ("resource", fun d => (resourceRecord.read .aside d).map resource)]

def codec : Codec Content where
  read _ := tagged.read
  write
    | text s => .object (("type", .string "text") :: textRecord.members s)
    | image data mimeType => .object (("type", .string "image") :: imageRecord.members (data, mimeType))
    | resource r => .object (("type", .string "resource") :: resourceRecord.members r)

def ofImage (bytes : List UInt8) (mimeType : String) : Content :=
  image (Base64.encode bytes) mimeType

/-- A blob as an embedded resource. -/
def ofBytes (uri : String) (bytes : List UInt8) (mimeType : String) : Content :=
  resource (.ofBytes uri bytes mimeType)

def text? : Content → Option String
  | text s => some s
  | _ => none

end Content

end ReleaseDesk.Protocol
