import Replica.Rehearsal.Reply
/-!
# Scripted bridges

A scripted bridge gives prepared replies in order, whatever it is asked.  Chance is prepared
too: the same numbers come round and round.
-/

namespace Replica

/-- Numbers that come round and round. -/
structure Chances where
  /-- The numbers; a half if there are none. -/
  numbers : List Float
  /-- How many were drawn. -/
  drawn : Nat := 0

/-- The next number. -/
def Chances.draw (c : Chances) : Float × Chances :=
  (c.numbers.getD (c.drawn % c.numbers.length) 0.5, { c with drawn := c.drawn + 1 })

/-- A scripted bridge. -/
structure Script where
  /-- The replies that are left. -/
  replies : List Reply
  /-- The numbers drawn by chance. -/
  chances : Chances

namespace Script

/-- What happens when no replies are left. -/
def usedUp : String := "no more scripted responses"

/-- Carries a request to the bridge. -/
def exchange (_ : Request) (s : Script) (files : FileSystem) : Answer × Script × FileSystem :=
  match s.replies with
  | [] => (.unreachable usedUp, s, files)
  | reply :: rest =>
    (reply.answer, { s with replies := rest }, FileChange.after files reply.changes)

/-- The way to a scripted bridge.  No time passes. -/
def link : Link Script where
  exchange := exchange
  redirected := Reply.leadNowhere
  chance s :=
    let (x, chances) := s.chances.draw
    (x, { s with chances })
  pause _ _ := .elapsed

end Script

end Replica
