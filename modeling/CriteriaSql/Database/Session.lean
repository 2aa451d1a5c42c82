import CriteriaSql.Column.Decode
import CriteriaSql.Column.Encode
import CriteriaSql.Database.Executor
import CriteriaSql.Statement

/-!
# Database sessions

An executor over a connection to a server whose answers are prepared. A statement is sent, its
parameters are bound to the types that the server expects, and the rows that come back are decoded
column by column. SQL with a zero character cannot be sent, and rows that do not have all columns
cannot be read. A connection that is lost stays lost, unless it comes from a pool.

* `ServerReply`: what the server does with the next statement.
* `Session`: the connection with what it has sent so far.
* `Session.executor`: the executor.
-/

namespace CriteriaSql

/-- Where the server fails: it closes the connection, or refuses the statement before or after its
parameters are bound. -/
inductive Fault where
  | close
  | prepare
  | execute
  deriving DecidableEq, Repr

/-- What the server does with a statement. Without parameter types, all are text. -/
structure ServerReply where
  paramTypes : Option (List ColumnType)
  columns : List (String × ColumnType)
  rows : List (List (Option Bytes))
  tag : String
  fault : Option Fault

/-- The reply of a server that has nothing prepared. -/
def ServerReply.nothing : ServerReply := ⟨none, [], [], "SELECT 0", none⟩

/-- A statement that was sent, with its parameters once they are bound. -/
structure SentStatement where
  sql : String
  bound : Option (List (Option Bytes))

/-- Where connections come from. -/
inductive Session.Origin where
  | single
  | pool
  | closedPool
  | refusingPool
  deriving DecidableEq, Repr

/-- Why a pool gives no connection. -/
def Session.Origin.refusal? : Origin → Option String
  | .single | .pool => none
  | .closedPool => some "Pool has been closed"
  | .refusingPool => some "Error occurred while creating a new object: invalid connection string"

/-- A connection: the prepared replies, whether it is lost, and what was sent. -/
structure Session where
  origin : Session.Origin
  replies : List ServerReply
  lost : Bool
  sent : List SentStatement

namespace Session

/-- A connection that was not used yet. -/
def start (origin : Origin) (replies : List ServerReply) : Session := ⟨origin, replies, false, []⟩

/-! ## Texts of failures -/

def connectionClosed : String := "connection closed"

def databaseError : String := "db error"

def notSendable : String := "error encoding message to server"

def notReadable : String := "error parsing response from server"

def wrongCount (expected got : Nat) : String :=
  "expected " ++ toString expected ++ " parameters but got " ++ toString got

def notBound (index : Nat) : String := "error serializing parameter " ++ toString index

def notDecoded (index : Nat) : String := "error deserializing column " ++ toString index

/-! ## Binding -/

/-- The bytes of parameters, or the position of the first one that cannot be bound. -/
def bindFrom (index : Nat) : List (ColumnType × Value) → Except Nat (List (Option Bytes))
  | [] => .ok []
  | (t, v) :: rest =>
    match v.encode t with
    | .ok bytes => (bindFrom (index + 1) rest).map (bytes :: ·)
    | .error _ => .error index

/-- The largest placeholder number of a text. -/
def largestMarker (sql : String) : Nat :=
  (Statement.markers sql).foldl max 0

/-- The parameters of a statement, bound to the types that a reply expects. -/
def bind (sql : String) (params : List Value) (reply : ServerReply) :
    Except String (List (Option Bytes)) :=
  let expected := (reply.paramTypes.map List.length).getD (largestMarker sql)
  if expected ≠ params.length then .error (wrongCount expected params.length)
  else
    let types := reply.paramTypes.getD (List.replicate params.length .text)
    (bindFrom 0 (types.zip params)).mapError notBound

/-! ## Sending -/

/-- Whether SQL has no zero character, which would end it on the way. -/
def isSendable (sql : String) : Bool :=
  !sql.toList.contains '\x00'

/-- What became of a statement: the failure's text, or the parameters and the reply. -/
structure Outcome where
  bound : Option (List (Option Bytes))
  result : Except String ServerReply

/-- What a reply does with a statement whose rows must pass a check. -/
def outcome (accepts : ServerReply → Bool) (sql : String) (params : List Value)
    (reply : ServerReply) : Outcome :=
  match reply.fault with
  | some .close => ⟨none, .error connectionClosed⟩
  | some .prepare => ⟨none, .error databaseError⟩
  | fault =>
    match bind sql params reply with
    | .error text => ⟨none, .error text⟩
    | .ok bound =>
      ⟨some bound,
        if fault = some .execute then .error databaseError
        else if accepts reply then .ok reply
        else .error notReadable⟩

/-- A reply that failed is reported as an execution error. -/
def failed (operation text : String) (s : Session) : Reply Session α :=
  ⟨.error (.execution operation ⟨text, []⟩), [.failed operation text], s⟩

/-- Sends a statement and goes on with the server's reply, if its rows pass a check. -/
def send (operation : String) (accepts : ServerReply → Bool) (read : ServerReply → Except Error α)
    (sql : String) (params : List Value) (s : Session) : Reply Session α :=
  match s.origin.refusal? with
  | some text => ⟨.error (.pool text), [], s⟩
  | none =>
    if !isSendable sql then failed operation notSendable s
    else if s.lost ∧ s.origin = .single then failed operation connectionClosed s
    else
      let reply := s.replies.headD .nothing
      let o := outcome accepts sql params reply
      let next : Session :=
        { s with
          replies := s.replies.tail
          lost := reply.fault = some .close
          sent := s.sent ++ [⟨sql, o.bound⟩] }
      match o.result with
      | .error text => failed operation text next
      | .ok reply => ⟨read reply, [], next⟩

/-! ## Reading replies -/

/-- Whether every row has a cell for each column and no more. -/
def hasFullRows (reply : ServerReply) : Bool :=
  reply.rows.all (·.length == reply.columns.length)

/-- Decodes the columns of a row from a position on. -/
def decodeRow (index : Nat) :
    List ((String × ColumnType) × Option Bytes) → Except Error (List (String × Value))
  | [] => .ok []
  | ((name, t), raw) :: rest =>
    match Value.decode t raw with
    | .ok v => (decodeRow (index + 1) rest).map ((name, v) :: ·)
    | .error _ => .error (.decode name (notDecoded index))

/-- The rows of a reply; a column name that is repeated stays repeated. -/
def rows (reply : ServerReply) : Except Error (List Record) :=
  reply.rows.mapM fun row => (decodeRow 0 (reply.columns.zip row)).map Record.mk

/-- The count at the end of a reply's tag, zero if there is none. -/
def count (reply : ServerReply) : Nat :=
  let word := (reply.tag.toList.reverse.takeWhile (· ≠ ' ')).reverse
  (Text.below? UInt64.size word).getD 0

/-- The executor of a session. An execution does not look at rows. -/
def executor : Executor Session where
  query := send "query" hasFullRows rows
  execute := send "execute" (fun _ => true) fun reply => .ok (count reply)

end Session

end CriteriaSql
