import ErgGo.Lib.Bson
import ErgGo.Lib.Interleaving
import ErgGo.Lib.Runes
import ErgGo.Lms.Entities

/-!
# Notification digests

A flush looks up the users with pending notifications and sends each of them a digest. It reads,
sends and marks by separate requests to the database and to the mail server, any of which can
fail, and other flushes run between them.
-/

namespace ErgGo.Notifications
open Go Documents Bson Concurrent
open Lms (ObjectID objectID)

inductive NotificationStatus where
  | pending
  | sent
  | delivered
  | failed
  | retrying
  | canceled
  | read
  | unread
  deriving DecidableEq

inductive ChannelType where
  | discord
  | telegram
  | whatsApp
  | email
  | slack
  | webhook
  | sms
  deriving DecidableEq

def ChannelType.name : ChannelType → String
  | .discord => "discord"
  | .telegram => "telegram"
  | .whatsApp => "whatsapp"
  | .email => "email"
  | .slack => "slack"
  | .webhook => "webhook"
  | .sms => "sms"

/-- `other` stands for any other text, such as the empty one. -/
inductive DigestFrequency where
  | none
  | daily
  | weekly
  | monthly
  | other
  deriving DecidableEq

structure Notification where
  id : ObjectID
  userID : ObjectID
  channel : ChannelType
  recipient : String := ""
  subject : String
  body : String
  status : NotificationStatus
  errorMsg : String := ""
  digested : Bool := false
  digestID : String := ""
  sentAt : Option Time := none
  createdAt : Time := 0
  updatedAt : Time := 0
  deriving DecidableEq

structure NotificationPreference where
  userID : ObjectID
  digestFreq : DigestFrequency

structure Digest where
  id : ObjectID
  userID : ObjectID
  channel : ChannelType
  recipient : String
  frequency : DigestFrequency
  subject : String
  items : List String
  count : ℕ
  status : NotificationStatus
  sentAt : Option Time := none
  createdAt : Time := 0
  updatedAt : Time := 0

/-- A digest as it is mailed, and the notifications its items were made of. -/
structure DigestMail where
  msg : Notification
  included : List ObjectID

/-- The collections, and the digests that the mail server has delivered. -/
structure DigestStore where
  notifications : Collection Notification.id
  preferences : List NotificationPreference
  digests : Collection Digest.id
  outbox : List DigestMail

/-! ## Requests -/

inductive DigestRequest where
  | countByStatus (status : NotificationStatus)
  | findByStatus (status : NotificationStatus) (limit : ℕ)
  | findPreference (userID : ObjectID)
  | findPendingByUser (userID : ObjectID)
  | insertDigest (digest : Digest) (included : List ObjectID)
  | sendMail (mail : DigestMail)
  | updateStatus (mail : DigestMail) (status : NotificationStatus) (errMsg : String)
  | markDigested (ids : List ObjectID) (digestID : String)
  | markDigestSent (id : ObjectID)

def DigestValue : DigestRequest → Type
  | .countByStatus _ => ℕ
  | .findByStatus .. => List Notification
  | .findPreference _ => Option NotificationPreference
  | .findPendingByUser _ => List Notification
  | .insertDigest .. => Unit
  | .sendMail _ => Unit
  | .updateStatus .. => Unit
  | .markDigested .. => Unit
  | .markDigestSent _ => Unit

abbrev DigestReply (q : DigestRequest) : Type := Except String (DigestValue q)

/-- What one request meets: the clock, the order that the database leaves among notifications of
one time, and a failure with whether the request has been carried out all the same. -/
structure DigestEnv where
  now : Time := 0
  ties : Notification → ℕ := fun _ => 0
  failure : Option (String × Bool) := none

def newer (ties : Notification → ℕ) (a b : Notification) : Bool :=
  b.createdAt < a.createdAt || a.createdAt = b.createdAt && ties a < ties b

/-- The query by status, newest first. -/
def DigestStore.byStatus (s : DigestStore) (ties : Notification → ℕ) (status : NotificationStatus) (limit : ℕ) :
    List Notification :=
  (sortSliceStable (newer ties) (s.notifications.docs.filter fun n => n.status = status)).take limit

def DigestStore.pendingOf (s : DigestStore) (userID : ObjectID) : List Notification :=
  s.notifications.docs.filter fun n => n.userID = userID && n.status = .pending && !n.digested

def setStatus (now : Time) (status : NotificationStatus) (errMsg : String) : Update Notification.id where
  apply n :=
    { n with
      status := status, errorMsg := errMsg, updatedAt := dateTime now
      sentAt := if status = .sent then some (dateTime now) else n.sentAt }
  key_apply _ := rfl

def setDigested (now : Time) (digestID : String) : Update Notification.id where
  apply n := { n with digested := true, digestID := digestID, updatedAt := dateTime now }
  key_apply _ := rfl

def setDigestSent (now : Time) : Update Digest.id where
  apply d := { d with status := .sent, sentAt := some (dateTime now), updatedAt := dateTime now }
  key_apply _ := rfl

def DigestStore.carryOut (env : DigestEnv) : (q : DigestRequest) → DigestStore → DigestReply q × DigestStore
  | .countByStatus status, s => (.ok (s.notifications.docs.countP fun n => n.status = status), s)
  | .findByStatus status limit, s => (.ok (s.byStatus env.ties status limit), s)
  | .findPreference userID, s => (.ok (s.preferences.find? fun pref => pref.userID = userID), s)
  | .findPendingByUser userID, s => (.ok (s.pendingOf userID), s)
  | .insertDigest digest _, s =>
    let stored := { digest with createdAt := dateTime env.now, updatedAt := dateTime env.now }
    (if (s.digests.insertOne stored).isSome then .ok () else .error "E11000 duplicate key error",
      { s with digests := (s.digests.insertOne stored).getD s.digests })
  | .sendMail mail, s => (.ok (), { s with outbox := s.outbox ++ [mail] })
  | .updateStatus mail status errMsg, s =>
    let updated := s.notifications.updateOne (fun n => n.id = mail.msg.id) (setStatus env.now status errMsg)
    (.ok (), { s with notifications := updated })
  | .markDigested ids digestID, s =>
    let updated := s.notifications.updateMany (fun n => n.id ∈ ids) (setDigested env.now digestID)
    (.ok (), { s with notifications := updated })
  | .markDigestSent id, s =>
    (.ok (), { s with digests := s.digests.updateOne (fun d => d.id = id) (setDigestSent env.now) })

def DigestStore.serve (env : DigestEnv) (q : DigestRequest) (s : DigestStore) : DigestReply q × DigestStore :=
  match env.failure with
  | none => s.carryOut env q
  | some (e, true) => (.error e, (s.carryOut env q).2)
  | some (e, false) => (.error e, s)

/-! ## The repository -/

abbrev DigestM (α : Type) := ExceptT String (Program DigestRequest DigestReply) α

/-- A request whose failure is reported under the operation's name. -/
def request (op : String) (q : DigestRequest) : DigestM (DigestValue q) :=
  ExceptT.mk ((Program.send q).bind fun r => .done (r.mapError (op ++ ": " ++ ·)))

/-- An id in hexadecimal, checked under the operation's name. -/
def parseID (op what id : String) : DigestM ObjectID :=
  match objectID id with
  | .ok id => pure id
  | .error e => throw (op ++ ": invalid " ++ what ++ ": " ++ e.text)

namespace Repository

def list (status : NotificationStatus) (limit : ℕ) : DigestM (List Notification × ℕ) := do
  let total ← request "notifications.List count" (.countByStatus status)
  let results ← request "notifications.List find" (.findByStatus status limit)
  pure (results, total)

def getPreference (userID : String) : DigestM (Option NotificationPreference) := do
  let objUserID ← parseID "notifications.GetPreference" "userID" userID
  request "notifications.GetPreference" (.findPreference objUserID)

def getPendingByUser (userID : String) : DigestM (List Notification) := do
  let objUserID ← parseID "notifications.GetPendingByUser" "userID" userID
  request "notifications.GetPendingByUser" (.findPendingByUser objUserID)

def createDigest (digest : Digest) (included : List ObjectID) : DigestM Unit :=
  request "notifications.CreateDigest" (.insertDigest digest included)

def updateStatus (mail : DigestMail) (status : NotificationStatus) (errMsg : String) : DigestM Unit :=
  request "notifications.UpdateStatus" (.updateStatus mail status errMsg)

def markDigested (ids : List String) (digestID : String) : DigestM Unit :=
  request "notifications.MarkDigested" (.markDigested (ids.filterMap fun id => (objectID id).toOption) digestID)

def markDigestSent (id : String) : DigestM Unit := do
  let objID ← parseID "notifications.MarkDigestSent" "ID" id
  request "notifications.MarkDigestSent" (.markDigestSent objID)

end Repository

/-! ## The service -/

/-- The registered templates. -/
class Renderer where
  render : String → List (String × String) → Except String String

structure EmailProvider where
  sender : String

/-- One flush: its limit, the mail provider, the ids it gives out for each user, the order in
which it visits the users and the date. -/
structure Flush where
  maxItems : ℕ := 20
  email : Option EmailProvider := none
  digestID : String → ObjectID
  messageID : String → ObjectID
  order : String → ℕ := fun _ => 0
  today : String := ""
  week : ℕ := 0
  month : String := ""
  year : ℕ := 0

def truncate (s : String) (n : ℕ) : String :=
  if s.utf8ByteSize ≤ n then s else String.ofList (takeBytes (n - 3) s.toList) ++ "..."

def formatDigestItem (n : Notification) : String :=
  match n.channel with
  | .discord => "[" ++ n.channel.name ++ "] " ++ n.subject ++ " — " ++ truncate n.body 80
  | .telegram => "[" ++ n.subject ++ "] " ++ truncate n.body 80
  | _ => n.subject ++ ": " ++ truncate n.body 80

def buildDigestSubject (flush : Flush) : DigestFrequency → String
  | .daily => "📬 Daily Digest — " ++ flush.today
  | .weekly => "📬 Weekly Digest — Tuần " ++ toString flush.week ++ "/" ++ toString flush.year
  | .monthly => "📬 Monthly Digest — " ++ flush.month ++ " " ++ toString flush.year
  | _ => "📬 ERG Digest"

def EmailProvider.send (p : EmailProvider) (mail : DigestMail) : DigestM Unit :=
  if p.sender = "" then throw "email: sender address not configured"
  else if mail.msg.recipient = "" then throw "email: recipient address is required"
  else if mail.msg.subject = "" then throw "email: subject is required"
  else request "email: send" (.sendMail mail)

/-- `Service.Send` of a message without a template: the status update may fail unnoticed. -/
def send (email : Option EmailProvider) (mail : DigestMail) : DigestM Unit :=
  match email with
  | none => throw "notification: no provider for channel"
  | some p => ExceptT.mk ((p.send mail).run.bind fun
    | .error e => (Repository.updateStatus mail .failed e).run.bind fun _ => .done (.error e)
    | .ok _ => (Repository.updateStatus mail .sent "").run.bind fun _ => .done (.ok ()))

def usersOf (order : String → ℕ) (notifications : List Notification) : List String :=
  sortSliceStable (fun u v => order u < order v)
    (((notifications.filter fun n => !n.digested).map fun n => n.userID.hex).dedup)

def getUsersWithPendingDigests (order : String → ℕ) : DigestM (List String) := do
  let (notifications, _) ← Repository.list .pending 500
  pure (usersOf order notifications)

def digestFrequency (pref : Option NotificationPreference) : DigestFrequency :=
  (pref.map NotificationPreference.digestFreq).getD .daily

def newDigest (flush : Flush) (userID : String) (pref : Option NotificationPreference) (pending : List Notification) :
    Digest where
  id := flush.digestID userID
  userID := (objectID userID).toOption.getD ObjectID.nil
  channel := .email
  recipient := (pref.map fun pref => pref.userID.hex).getD ""
  frequency := digestFrequency pref
  subject := buildDigestSubject flush (digestFrequency pref)
  items := (pending.take flush.maxItems).map formatDigestItem
  count := (pending.take flush.maxItems).length
  status := .pending

def joinLines (items : List String) : String := "\n".intercalate items

/-- The body from the template, or the plain items where it cannot be rendered. -/
def digestBody [Renderer] (flush : Flush) (items : List String) : String :=
  (Renderer.render "trending_summary" [("date", flush.today), ("items", joinLines items),
    ("dashboard_url", "https://erg.ninja/dashboard")]).toOption.getD (joinLines items)

def digestMail [Renderer] (flush : Flush) (userID : String) (digest : Digest) (included : List ObjectID) :
    DigestMail where
  msg :=
    { id := flush.messageID userID, userID := digest.userID, channel := .email, recipient := digest.recipient
      subject := digest.subject, body := digestBody flush digest.items, digestID := digest.id.hex
      status := .pending }
  included := included

/-- After the mail has gone out, the marks may fail: the failures are logged. -/
def markSent (included : List ObjectID) (digest : Digest) : DigestM Unit :=
  ExceptT.mk ((Repository.markDigested (included.map ObjectID.hex) digest.id.hex).run.bind fun _ =>
    (Repository.markDigestSent digest.id.hex).run.bind fun _ => .done (.ok ()))

/-- An error of a step of the digest. -/
def inStep {α : Type} (step : String) (x : DigestM α) : DigestM α :=
  ExceptT.mk (x.run.bind fun r => .done (r.mapError ("digest: " ++ step ++ ": " ++ ·)))

/-- The digest of the first notifications that were read. -/
def sendPending [Renderer] (flush : Flush) (userID : String) (pref : Option NotificationPreference)
    (pending : List Notification) : DigestM Unit :=
  if pending = [] then pure ()
  else do
    let included := (pending.take flush.maxItems).map Notification.id
    let digest := newDigest flush userID pref pending
    inStep "create" (Repository.createDigest digest included)
    inStep "send" (send flush.email (digestMail flush userID digest included))
    markSent included digest

def sendUserDigest [Renderer] (flush : Flush) (userID : String) : DigestM Unit := do
  let pref ← inStep "get preference" (Repository.getPreference userID)
  if digestFrequency pref = .none then pure ()
  else
    let pending ← inStep "get pending" (Repository.getPendingByUser userID)
    sendPending flush userID pref pending

/-- The users' digests are sent one after another; a failure is logged. -/
def sendUserDigests [Renderer] (flush : Flush) : List String → Program DigestRequest DigestReply Unit
  | [] => .done ()
  | userID :: users => (sendUserDigest flush userID).run.bind fun _ => sendUserDigests flush users

def flushPendingDigests [Renderer] (flush : Flush) : Program DigestRequest DigestReply Unit :=
  (getUsersWithPendingDigests flush.order).run.bind fun
    | .error _ => .done ()
    | .ok users => sendUserDigests flush users

end ErgGo.Notifications
