import SiteGateway.Text.Utf8

/-!
# Media types

What a file holds, judged by its extension.
-/

namespace SiteGateway

namespace MediaType

def known : List (String × String) :=
  [("html", "text/html"), ("htm", "text/html"), ("css", "text/css"), ("js", "text/javascript"),
   ("mjs", "application/javascript"), ("json", "application/json"), ("txt", "text/plain"),
   ("map", "text/plain"), ("md", "text/markdown"), ("png", "image/png"), ("jpg", "image/jpeg"),
   ("jpeg", "image/jpeg"), ("gif", "image/gif"), ("svg", "image/svg+xml"), ("ico", "image/x-icon"),
   ("webp", "image/webp"), ("pdf", "application/pdf"), ("xml", "text/xml"),
   ("zip", "application/zip"), ("gz", "application/gzip"), ("tar", "application/x-tar"),
   ("wasm", "application/wasm"), ("woff", "application/font-woff"), ("woff2", "font/woff2"),
   ("ttf", "font/ttf"), ("mp3", "audio/mpeg"), ("mp4", "video/mp4"), ("webm", "video/webm"),
   ("csv", "text/csv"), ("toml", "text/x-toml"), ("rs", "text/x-rust"), ("sh", "application/x-sh")]

/-- The media type for an extension, letter case aside; bytes if it is unknown or missing. -/
def ofExtension (extension : Option Bytes) : String :=
  let found := extension.bind fun e => (Utf8.decode? e).bind fun t =>
    known.find? fun (k, _) => k.toList == Text.lower t
  (found.map (·.2)).getD "application/octet-stream"

end MediaType

end SiteGateway
