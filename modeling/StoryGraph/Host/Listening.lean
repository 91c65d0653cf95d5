import StoryGraph.Host.Event

/-!
Listeners for host events: a recorder, which keeps all of them, and a publisher, which hands every
event to those who have subscribed before it.
-/

namespace StoryGraph

/-- The texts of the messages among some events. -/
def HostEvent.messages (events : List HostEvent) : List String :=
  events.filterMap fun e => match e with
    | .showMessage text => some text
    | _ => none

/-- The texts of the diagnostics among some events. -/
def HostEvent.diagnostics (events : List HostEvent) : List String :=
  events.filterMap fun e => match e with
    | .diagnostic text => some text
    | _ => none

/-- A publisher with an inbox for each subscriber, in the order of subscription. -/
structure Publisher where
  /-- How many events an inbox holds; older ones are lost. -/
  capacity : Nat := 1024
  inboxes : List (List HostEvent) := []

namespace Publisher

def subscribe (p : Publisher) : Publisher := { p with inboxes := p.inboxes ++ [[]] }

def publish (p : Publisher) (e : HostEvent) : Publisher :=
  { p with inboxes := p.inboxes.map fun box => (box ++ [e]).drop (box.length + 1 - max p.capacity 1) }

end Publisher

end StoryGraph
