import ReportCard.Image.Attempt
import ReportCard.Image.Url.Redirect

/-!
# Requests

What an address answers, and what following its redirections comes to: a body, or the reason why there is none.
-/

namespace ReportCard

/-- What an address answers. -/
inductive Reply where
  | answer (status : Nat) (body : ImageData)
  | redirect (location : String)
  /-- The connection fails with a message, or without one. -/
  | broken (message : String)
  /-- The answer takes a number of seconds. -/
  | late (seconds : Nat) (status : Nat) (body : ImageData)
deriving Repr

/-- What the addresses of the web answer, by their normal forms. -/
abbrev Web := List (String × Reply)

namespace Web

/-- The phrase that explains a status, empty for a status that is not known. -/
def phrase : Nat → String
  | 100 => "Continue"
  | 101 => "Switching Protocols"
  | 102 => "Processing"
  | 103 => "Early Hints"
  | 200 => "OK"
  | 201 => "Created"
  | 202 => "Accepted"
  | 203 => "Non-Authoritative Information"
  | 204 => "No Content"
  | 205 => "Reset Content"
  | 206 => "Partial Content"
  | 207 => "Multi-Status"
  | 208 => "Already Reported"
  | 226 => "IM Used"
  | 300 => "Multiple Choices"
  | 301 => "Moved Permanently"
  | 302 => "Found"
  | 303 => "See Other"
  | 304 => "Not Modified"
  | 305 => "Use Proxy"
  | 307 => "Temporary Redirect"
  | 308 => "Permanent Redirect"
  | 400 => "Bad Request"
  | 401 => "Unauthorized"
  | 402 => "Payment Required"
  | 403 => "Forbidden"
  | 404 => "Not Found"
  | 405 => "Method Not Allowed"
  | 406 => "Not Acceptable"
  | 407 => "Proxy Authentication Required"
  | 408 => "Request Timeout"
  | 409 => "Conflict"
  | 410 => "Gone"
  | 411 => "Length Required"
  | 412 => "Precondition Failed"
  | 413 => "Request Entity Too Large"
  | 414 => "Request-URI Too Long"
  | 415 => "Unsupported Media Type"
  | 416 => "Requested Range Not Satisfiable"
  | 417 => "Expectation Failed"
  | 418 => "I'm a teapot"
  | 421 => "Misdirected Request"
  | 422 => "Unprocessable Entity"
  | 423 => "Locked"
  | 424 => "Failed Dependency"
  | 425 => "Too Early"
  | 426 => "Upgrade Required"
  | 428 => "Precondition Required"
  | 429 => "Too Many Requests"
  | 431 => "Request Header Fields Too Large"
  | 451 => "Unavailable For Legal Reasons"
  | 500 => "Internal Server Error"
  | 501 => "Not Implemented"
  | 502 => "Bad Gateway"
  | 503 => "Service Unavailable"
  | 504 => "Gateway Timeout"
  | 505 => "HTTP Version Not Supported"
  | 506 => "Variant Also Negotiates"
  | 507 => "Insufficient Storage"
  | 508 => "Loop Detected"
  | 510 => "Not Extended"
  | 511 => "Network Authentication Required"
  | _ => ""

/-- What a status outside the successful ones is called. -/
def statusClass (status : Nat) : String :=
  match status / 100 with
  | 1 => "Informational response"
  | 3 => "Redirect response"
  | 4 => "Client error"
  | 5 => "Server error"
  | _ => "Invalid status code"

/-- The reason that a status gives for having no body; `help` is where the statuses are explained. -/
def statusReason (help : String) (status : Nat) (url : String) : String :=
  statusClass status ++ " '" ++ toString status ++ " " ++ phrase status ++ "' for url '" ++ url ++
    "'\nFor more information check: " ++ help ++ toString status

/-! ### Kinds of errors -/

/-- A status outside the successful ones. -/
def statusError : ErrorKind := { name := "HTTPStatusError" }

/-- A text that is no address. -/
def addressError : ErrorKind := { name := "InvalidURL" }

/-- A redirection to what is no address. -/
def protocolError : ErrorKind := { name := "RemoteProtocolError" }

/-- More redirections than are followed. -/
def redirectError : ErrorKind := { name := "TooManyRedirects" }

/-- A connection that fails. -/
def connectError : ErrorKind := { name := "ConnectError" }

/-- A text that cannot be sent. -/
def encodeError : ErrorKind := { name := "UnicodeEncodeError" }

/-- A value that does not fit. -/
def valueError : ErrorKind := { name := "ValueError" }

/-! ### Following addresses -/

/-- What an answer comes to. -/
def received (help : String) (status : Nat) (body : ImageData) (url : String) : Attempt :=
  if status / 100 = 2 then .loaded body else .broken statusError (statusReason help status url)

/-- The reason for an address whose answers cannot be used because nothing says where they came from. -/
def unknownType (url : String) : String := "unknown url type: " ++ Text.quoted url

/-- The reason for a location that cannot be sent because it does not keep to ASCII: its first run of other
characters. -/
def unsentReason? (location : String) : Option String :=
  let isOther c := 0x80 ≤ Char.toNat c
  let start := (location.toList.takeWhile (!isOther ·)).length
  let about (what : String) : String := "'ascii' codec can't encode " ++ what ++ ": ordinal not in range(128)"
  match (location.toList.drop start).takeWhile isOther with
  | [] => none
  | [c] => some (about ("character '" ++ String.ofList (Text.escapedPoint c.toNat) ++ "' in position " ++
      toString start))
  | run => some (about ("characters in position " ++ toString start ++ "-" ++ toString (start + run.length - 1)))

/-- Requests an address and follows at most `hops` redirections.  The result lists the addresses requested. -/
def request (web : Web) (help : String) (timeout : Float) (hops : Nat) (url : Url) : List String × Attempt :=
  let address := url.text
  let answered (a : Attempt) : List String × Attempt :=
    ([address], if url.scheme.isEmpty then .broken valueError (unknownType address) else a)
  match (web.lookup address).getD (.answer 404 (.other "")) with
  | .answer status body => answered (received help status body address)
  | .late seconds status body =>
    if Float.ofNat seconds < timeout then answered (received help status body address)
    else ([address], .late)
  | .broken message => ([address], .broken connectError message)
  | .redirect location =>
    match unsentReason? location with
    | some reason => ([address], .broken encodeError reason)
    | none =>
      if url.scheme.isEmpty then answered (.broken valueError "")
      else match url.redirect location with
      | .error fault => ([address], .broken protocolError fault.message)
      | .ok next =>
        match hops with
        | 0 => ([address], .broken redirectError "Exceeded maximum allowed redirects.")
        | hops + 1 =>
          let (requests, result) := web.request help timeout hops next
          (address :: requests, result)

/-- Requests the address that a text writes.  One that does not say where to ask is requested by its path. -/
def get (web : Web) (help : String) (timeout : Float) (hops : Nat) (source : String) : List String × Attempt :=
  match (Url.ofText source).bind fun url => if url.isRelative then .ok url.target else url.checkHost with
  | .error fault => ([], .broken addressError fault.message)
  | .ok url => web.request help timeout hops url

end Web

end ReportCard
