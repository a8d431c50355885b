import LinkGauge.Plan
import LinkGauge.Store.Statement

/-!
# Access to the store

Connections are taken and statements executed one after the other. A result is read row by row; a
row that cannot be read is a problem of the store.
-/

namespace LinkGauge.Store

/-- What the database answers to a statement. -/
inductive Reply where
  | rows (rows : List Row)
  /-- So many rows were changed. -/
  | affected (n : Nat)
  /-- The database refuses, under a code. -/
  | refused (code : String) (v : Violation)
  /-- The connection broke off; the system says why. -/
  | lost (reason : String)

/-- What is asked of the database. -/
inductive Access.Question where
  /-- Take a connection. -/
  | connect
  | execute (s : Statement)

/-- What a database offers. -/
def Access : Interface where
  Question := Access.Question
  Answer
    | .connect => Except Problem Unit
    | .execute _ => Reply

variable {α : Type}

/-- Take a connection. -/
def connect : Plan Access (Except Problem Unit) := .ask .connect .done

/-- Execute a statement. -/
def execute (s : Statement) : Plan Access Reply := .ask (.execute s) .done

def Reply.rows? : Reply → Except Problem (List Row)
  | .rows found => .ok found
  | .affected _ => .ok []
  | .refused code v => .error (.ofCode code v)
  | .lost reason => .error (.disconnected reason)

/-- How many rows a reply is about. -/
def Reply.count : Reply → Except Problem Nat
  | .rows found => .ok found.length
  | .affected n => .ok n
  | .refused code v => .error (.ofCode code v)
  | .lost reason => .error (.disconnected reason)

/-- All rows of a result. -/
def Reply.all (read : Row → Except Problem α) (r : Reply) : Except Problem (List α) := do
  (← r.rows?).mapM read

/-- The first row of a result, if there is one. -/
def Reply.first? (read : Row → Except Problem α) (r : Reply) : Except Problem (Option α) := do
  match ← r.rows? with
  | [] => .ok none
  | row :: _ => (read row).map some

/-- The first row of a result that must not be empty. -/
def Reply.first (read : Row → Except Problem α) (r : Reply) : Except Problem α := do
  match ← r.first? read with
  | some a => .ok a
  | none => .error .notFound

/-- Execute a statement and make sense of the reply. -/
def asking (s : Statement) (read : Reply → Except Problem α) : Plan Access (Except Problem α) :=
  (execute s).bind fun reply => .done (read reply)

/-! ### Rows -/

def readHost (row : Row) : Except Problem Host := do
  .ok
    { id := ← row.read "id" .int64
      name := ← row.read "name" .text
      hostname := ← row.read "hostname" .text
      port := ← row.read "port" .int32
      category := ← row.read "category" .category
      active := ← row.read "active" .bool
      description := ← row.read "description" (.option .text)
      createdAt := ← row.read "created_at" .instant
      updatedAt := ← row.read "updated_at" .instant }

def readSpeed (row : Row) : Except Problem Speed.Test := do
  .ok
    { id := ← row.read "id" .int64
      timestamp := ← row.read "timestamp" .instant
      downloadMbps := ← row.read "download_mbps" .real
      uploadMbps := ← row.read "upload_mbps" .real
      pingMs := ← row.read "ping_ms" .real
      jitterMs := ← row.read "jitter_ms" (.option .real)
      serverName := ← row.read "server_name" (.option .text)
      serverId := ← row.read "server_id" (.option .text)
      isp := ← row.read "isp" (.option .text)
      externalIp := ← row.read "external_ip" (.option .text)
      resultUrl := ← row.read "result_url" (.option .text)
      daemon := ← row.read "daemon_id" .text }

def readThroughput (row : Row) : Except Problem Throughput.Test := do
  .ok
    { id := ← row.read "id" .int64
      timestamp := ← row.read "timestamp" .instant
      sentMbps := ← row.read "sent_mbps" .real
      receivedMbps := ← row.read "received_mbps" .real
      retransmits := ← row.read "retransmits" (.option .real)
      meanRttMs := ← row.read "mean_rtt_ms" (.option .real)
      durationSeconds := ← row.read "duration_seconds" .int32
      transport := ← row.read "protocol" .transport
      success := ← row.read "success" .bool
      error := ← row.read "error_message" (.option .text)
      daemon := ← row.read "daemon_id" .text
      hostId := ← row.read "host_id" (.option .int64) }

def readCount (row : Row) : Except Problem Int64 := row.read "count" .int64

/-! ### Operations -/

def createHost (r : Host.Registration) : Plan Access (Except Problem Host) :=
  asking (.createHost r) (Reply.first readHost)

def getHost (id : Int64) : Plan Access (Except Problem (Option Host)) :=
  asking (.getHost id) (Reply.first? readHost)

def listHosts (active : Option Bool) (category : Option Category) :
    Plan Access (Except Problem (List Host)) :=
  asking (.listHosts active category) (Reply.all readHost)

def changeHost (id : Int64) (c : Host.Change) : Plan Access (Except Problem Host) :=
  asking (.changeHost id c) (Reply.first readHost)

def createSpeed (s : Speed.Submission) : Plan Access (Except Problem Speed.Test) :=
  asking (.createSpeed s) (Reply.first readSpeed)

def getSpeed (id : Int64) : Plan Access (Except Problem (Option Speed.Test)) :=
  asking (.getSpeed id) (Reply.first? readSpeed)

def createThroughput (r : Throughput.Record) : Plan Access (Except Problem Throughput.Test) :=
  asking (.createThroughput r) (Reply.first readThroughput)

def getThroughput (id : Int64) : Plan Access (Except Problem (Option Throughput.Test)) :=
  asking (.getThroughput id) (Reply.first? readThroughput)

/-- Speed tests of a statement that lists them. -/
def listSpeed (s : Statement) : Plan Access (Except Problem (List Speed.Test)) :=
  asking s (Reply.all readSpeed)

/-- Throughput tests of a statement that lists them. -/
def listThroughput (s : Statement) : Plan Access (Except Problem (List Throughput.Test)) :=
  asking s (Reply.all readThroughput)

/-- The number that a statement counts. -/
def count (s : Statement) : Plan Access (Except Problem Int64) :=
  asking s (Reply.first readCount)

/-- Whether a statement that deletes found what to delete. -/
def delete (s : Statement) : Plan Access (Except Problem Bool) :=
  asking s fun reply => reply.count.map (0 < ·)

end LinkGauge.Store
