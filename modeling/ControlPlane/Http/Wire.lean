import ControlPlane.Http.Header
import ControlPlane.Http.Status
import ControlPlane.Session
import ControlPlane.Url

namespace ControlPlane.Http

structure Message where
  method : Method
  target : String
  headers : Headers
  body : String := ""
  deriving DecidableEq, Repr

structure Reply where
  status : Nat
  headers : Headers := []
  body : String := ""
  deriving DecidableEq, Repr

inductive Delivery where
  | answered (reply : Reply)
  | dropped
  deriving DecidableEq, Repr

inductive Event where
  | sent (message : Message)
  | slept (duration : Nat)
  | warning (text : String)
  | error (text : String)
  deriving DecidableEq, Repr

structure Wire where
  port : Nat
  script : List Delivery := []
  events : List Event := []
  calls : Nat := 0
  deriving DecidableEq, Repr

def isLocal : Host → Bool
  | .name labels => labels == "localhost"
  | .v4 address => address == 0x7F000001 || address == 0
  | .v6 _ => false

namespace Wire

def reaches (w : Wire) (u : Url) : Bool :=
  u.scheme == .http && isLocal u.host && u.effectivePort == w.port

def record (w : Wire) (events : List Event) : Wire := { w with events := w.events ++ events }

def unprepared : Delivery := .answered { status := 500, body := "no reply queued" }

def deliver (w : Wire) (m : Message) : Delivery × Wire :=
  (w.script.head?.getD unprepared, { w.record [.sent m] with script := w.script.tail })

theorem deliver_shorter {w w' : Wire} {m : Message} {r : Reply} (h : isSuccess r.status)
    (hd : w.deliver m = (.answered r, w')) : w'.script.length < w.script.length := by
  simp only [deliver, Prod.mk.injEq] at hd
  obtain ⟨hr, rfl⟩ := hd
  cases hs : w.script with
  | nil =>
      simp only [hs, List.head?_nil, Option.getD_none, unprepared, Delivery.answered.injEq] at hr
      subst hr
      simp [isSuccess] at h
  | cons d rest => simp

theorem deliver_le {w w' : Wire} {m : Message} {d : Delivery} (hd : w.deliver m = (d, w')) :
    w'.script.length ≤ w.script.length := by
  simp only [deliver, Prod.mk.injEq] at hd
  obtain ⟨-, rfl⟩ := hd
  simp

end Wire

end ControlPlane.Http
