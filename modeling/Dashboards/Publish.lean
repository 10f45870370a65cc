import Dashboards.Compile

/-!
# Publishing dashboards

* `Envelope`      what is sent for a dashboard, with the document as it is;
* `envelope`      that of a document, to replace what is there;
* `publish`       one request, and what became of it;
* `publishAll`    one dashboard after the other, up to the first failure if told so.
-/

namespace Dashboards

/-- The number of the root folder of the server. -/
def rootFolder : Nat := 0

structure Envelope where
  dashboard : Json.Document
  /-- A dashboard that is there is replaced. -/
  overwrite : Bool
  folderId : Nat

namespace Envelope

/-- The members in their order, with the texts of their values. That of the document is its own. -/
def members (e : Envelope) : List (String × List Char) :=
  [("dashboard", e.dashboard.text.toList),
    ("overwrite", (Json.Value.bool e.overwrite).compactChars),
    ("folderId", (Json.Value.nat e.folderId).compactChars)]

def body (e : Envelope) : String :=
  String.ofList (Json.Value.objectChars (e.members.map fun (k, v) => Json.Value.memberChars k v))

end Envelope

/-- Tells the server to put the document into its root folder, whatever is there. -/
def envelope (d : Json.Document) : Envelope where
  dashboard := d
  overwrite := true
  folderId := rootFolder

inductive PublishStatus where
  /-- The server replied. -/
  | http (code : Nat)
  | transport
deriving DecidableEq

namespace PublishStatus

def text : PublishStatus → String
  | .http code => "HTTP " ++ toString code
  | .transport => "transport failure"

def json : PublishStatus → Json.Value
  | .http code => .object [("kind", .text "http"), ("code", .nat code)]
  | .transport => .object [("kind", .text "transport")]

end PublishStatus

structure PublishResult where
  name : String
  status : PublishStatus
  success : Bool
  /-- What the server or the transport said about a failure. -/
  detail : Option String
deriving DecidableEq

namespace PublishResult

/-- A reply is a success if its status lies between 200 and 299. -/
def ofReply (name : String) : Except Failure Reply → PublishResult
  | .ok r =>
    let success := 200 ≤ r.status && r.status < 300
    ⟨name, .http r.status, success, if success then none else some r.body⟩
  | .error f => ⟨name, .transport, false, some f.message⟩

def failure? (r : PublishResult) : Option Failure :=
  if r.success then none else some (.publish r.name r.status.text (r.detail.getD ""))

def json (r : PublishResult) : Json.Value :=
  let detail := match r.detail with
    | some d => [("detail", Json.Value.text d)]
    | none => []
  .object ([("name", .text r.name), ("status", r.status.json),
    ("success", .bool r.success)] ++ detail)

end PublishResult

def publish (h : Host σ) (endpoint token : String) (c : Compiled) (s : Session σ) :
    PublishResult × Session σ :=
  let (reply, s) := s.post h ⟨endpoint, token, (envelope c.document).body⟩
  (.ofReply c.name reply, s)

def publishAll (h : Host σ) (endpoint token : String) (stop : Bool) :
    List Compiled → Session σ → List PublishResult × Session σ
  | [], s => ([], s)
  | c :: cs, s =>
    let (r, s) := publish h endpoint token c s
    if stop && !r.success then ([r], s)
    else
      let (rs, s) := publishAll h endpoint token stop cs s
      (r :: rs, s)

end Dashboards
