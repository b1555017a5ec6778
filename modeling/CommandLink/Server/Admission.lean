import CommandLink.Bytes
import CommandLink.Server.Connections
import CommandLink.Table
import CommandLink.Text.Blank

/-!
# Admission

Which connections a server takes on. A direct connection holds a slot from its acceptance to its
end, and it ends early if it does not open as it should. A tunnel consists of two requests of one
session: the download takes the slot and is parked, and the upload of the same session takes the
slot over and serves the tunnel.
-/

namespace CommandLink.Server

/-- What the two requests of a tunnel have in common. -/
structure TunnelSession where
  id : Nat
  deriving DecidableEq, Repr

namespace TunnelSession

/-- The number of 32 hexadecimal digits. -/
def ofDigits? (cs : List Char) : Option TunnelSession :=
  if cs.length = 32 then (Bytes.ofHexChars? cs).map fun bytes => ⟨Bytes.toNat bytes⟩ else none

/-- The number of 32 hexadecimal digits with hyphens between five groups of them. -/
def ofGroups? (cs : List Char) : Option TunnelSession :=
  let isHyphen (i : Nat) : Bool := i = 8 || i = 13 || i = 18 || i = 23
  let places := cs.zipIdx
  if cs.length = 36 && places.all fun p => isHyphen p.2 = (p.1 = '-') then
    ofDigits? (cs.filter (· ≠ '-'))
  else none

/-- The session that a text names: plain digits, or groups that may stand in braces or behind the
name of their kind. -/
def parse? (s : String) : Option TunnelSession :=
  let cs := Text.trimChars s.toList
  let kind := "urn:uuid:".toList
  if cs.length = 32 then ofDigits? cs
  else if cs.length = 45 && cs.take 9 = kind then ofGroups? (cs.drop 9)
  else if cs.length = 38 && cs.head? = some '\x7b' && cs.getLast? = some '\x7d' then
    ofGroups? (cs.drop 1).dropLast
  else ofGroups? cs

end TunnelSession

/-- Who holds the slots of a server. -/
structure Admission where
  connections : Connections
  /-- The slots of direct connections whose first line is still to come. -/
  opening : List Nat
  /-- The slots of direct connections that have opened. -/
  direct : List Nat
  /-- The downloads that wait for their upload, with their slots. -/
  parked : Table TunnelSession Nat
  /-- The slots of tunnels that are served. -/
  served : List Nat

/-- What becomes of the first line of a direct connection. -/
inductive Opening where
  | accepted
  | rejected
  | timedOut
  deriving DecidableEq, Repr

/-- What happens to a server. -/
inductive AdmissionEvent where
  /-- A direct connection arrives. -/
  | connect
  | opened (slot : Nat) (opening : Opening)
  /-- A direct connection that has opened has ended. -/
  | disconnect (slot : Nat)
  | download (session : TunnelSession)
  | upload (session : TunnelSession)
  /-- A tunnel is no longer served. -/
  | finish (slot : Nat)
  /-- A parked download is dropped. -/
  | expire (session : TunnelSession)
  /-- All parked downloads are dropped. -/
  | clear
  | drain
  deriving DecidableEq, Repr

/-- How a server answers. -/
inductive AdmissionAnswer where
  | admitted (slot : Nat)
  | full
  | alreadyParked
  | unknownSession
  | noted
  deriving DecidableEq, Repr

/-- The status and the text with which a request of a tunnel is refused. -/
def AdmissionAnswer.refusal? : AdmissionAnswer → Option (Nat × String)
  | .full => some (503, "connection limit reached")
  | .alreadyParked => some (409, "session already open")
  | .unknownSession => some (404, "unknown tunnel session")
  | .admitted _ => none
  | .noted => none

namespace Admission

/-- Nothing has been taken on. -/
def empty (max : Nat) : Admission := ⟨.empty max, [], [], .empty, []⟩

/-- Gives back the slots of parked downloads. -/
def releaseAll (c : Connections) (slots : List Nat) : Connections := slots.foldl .release c

/-- What an event does, and how it is answered. -/
def step (a : Admission) : AdmissionEvent → Admission × AdmissionAnswer
  | .connect =>
    match a.connections.acquire with
    | none => (a, .full)
    | some (slot, connections) =>
      ({ a with connections := connections, opening := a.opening ++ [slot] }, .admitted slot)
  | .opened slot opening =>
    if slot ∈ a.opening then
      let others := a.opening.filter (· ≠ slot)
      if opening = .accepted then
        ({ a with opening := others, direct := a.direct ++ [slot] }, .noted)
      else ({ a with connections := a.connections.release slot, opening := others }, .noted)
    else (a, .noted)
  | .disconnect slot =>
    if slot ∈ a.direct then
      ({ a with
          connections := a.connections.release slot
          direct := a.direct.filter (· ≠ slot) }, .noted)
    else (a, .noted)
  | .download session =>
    match a.connections.acquire with
    | none => (a, .full)
    | some (slot, connections) =>
      if a.parked.contains session then
        ({ a with connections := connections.release slot }, .alreadyParked)
      else
        ({ a with connections := connections, parked := a.parked.insert session slot },
          .admitted slot)
  | .upload session =>
    match a.parked.get? session with
    | none => (a, .unknownSession)
    | some slot =>
      ({ a with parked := a.parked.erase session, served := a.served ++ [slot] }, .admitted slot)
  | .finish slot =>
    if slot ∈ a.served then
      ({ a with
          connections := a.connections.release slot
          served := a.served.filter (· ≠ slot) }, .noted)
    else (a, .noted)
  | .expire session =>
    match a.parked.get? session with
    | none => (a, .noted)
    | some slot =>
      ({ a with
          connections := a.connections.release slot
          parked := a.parked.erase session }, .noted)
  | .clear =>
    ({ a with
        connections := releaseAll a.connections (a.parked.entries.map Prod.snd)
        parked := .empty }, .noted)
  | .drain => ({ a with connections := a.connections.startDraining }, .noted)

end Admission

/-! ## Requests of a tunnel -/

/-- One of the two requests of a tunnel. -/
inductive TunnelRequest where
  | download (session : TunnelSession)
  | upload (session : TunnelSession)
  deriving DecidableEq, Repr

/-- The request that two headers make, or the status and the text with which it is refused. -/
def TunnelRequest.read (session side : Option String) : Except (Nat × String) TunnelRequest :=
  match session.bind TunnelSession.parse?, side with
  | none, _ => .error (400, "missing or invalid Session header")
  | some session, some "download" => .ok (.download session)
  | some session, some "upload" => .ok (.upload session)
  | some _, _ => .error (400, "missing or invalid Side header")

end CommandLink.Server
