import SimpleDoip.Lib.Transition

/-!
# Answers that provoke no answers

Nodes on a medium that delivers what was once sent, to any node, any number of times and in any
order. A packet somebody injects is of generation 0, the answers to a packet are of the next. Where
nodes answer with packets that nobody answers, nothing gets beyond generation 1
(`run_generation_le_one`): no packet makes nodes answer each other forever.
-/

namespace Reflection

open Transition

/-- A packet on the medium, with how many answers lie between it and the one that was injected. -/
structure Packet (β : Type) where
  body : β
  generation : Nat

/-- The nodes, and every packet sent so far. Packets are never taken off, as the medium may deliver
them again. -/
structure Medium (ν β : Type) where
  nodes : List ν
  packets : List (Packet β)

/-- A packet is injected; a node changes for reasons of its own; or a packet is delivered to a node,
along some route. -/
inductive Event (ν β ρ : Type) where
  | inject (body : β)
  | change (i : Nat) (node : ν)
  | deliver (i k : Nat) (route : ρ)

section
variable {ν β ρ : Type} (receive : ν → ρ → β → Option (ν × List β))

/-- The answers to a packet, which are of the next generation. -/
def Packet.answers (packet : Packet β) (bodies : List β) : List (Packet β) :=
  bodies.map fun body => ⟨body, packet.generation + 1⟩

/-- One event. A delivery is possible where the packet and the node exist and the node accepts it
along the route. -/
def step (m : Medium ν β) : Event ν β ρ → Option (Medium ν β)
  | .inject body => some { m with packets := m.packets ++ [⟨body, 0⟩] }
  | .change i node => some { m with nodes := m.nodes.set i node }
  | .deliver i k route => do
    let node ← m.nodes[i]?
    let packet ← m.packets[k]?
    let received ← receive node route packet.body
    return {
      nodes := m.nodes.set i received.1
      packets := m.packets ++ packet.answers received.2 }

variable {receive} {A : β → Prop}

/-- What is of the first generation is an answer, and there is no second. This is what every event
preserves. -/
def Medium.Settled (A : β → Prop) (m : Medium ν β) : Prop :=
  ∀ packet ∈ m.packets, packet.generation ≤ 1 ∧ (packet.generation = 1 → A packet.body)

/-- **Nobody answers an answer**: if nodes answer with what satisfies `A` only, and never answer
what does, then no run gets beyond the first generation. -/
theorem run_generation_le_one
    (hreceive : ∀ node route body node' bodies,
      receive node route body = some (node', bodies) → (∀ b ∈ bodies, A b) ∧ (A body → bodies = []))
    {nodes : List ν} {events : List (Event ν β ρ)} {m : Medium ν β}
    (hrun : run (step receive) ⟨nodes, []⟩ events = some m) : m.Settled A := by
  refine run_invariant (P := Medium.Settled A) ?_ hrun (by simp [Medium.Settled])
  intro m event m' hstep hm
  cases event with
  | inject body =>
    cases hstep
    intro packet hpacket
    rcases List.mem_append.mp hpacket with hpacket | hpacket
    · exact hm packet hpacket
    · cases List.mem_singleton.mp hpacket
      exact ⟨Nat.zero_le 1, fun h => by cases h⟩
  | change i node =>
    cases hstep
    exact hm
  | deliver i k route =>
    obtain ⟨node, -, hstep⟩ := Option.bind_eq_some_iff.mp hstep
    obtain ⟨packet, hpacket, hstep⟩ := Option.bind_eq_some_iff.mp hstep
    obtain ⟨received, hreceived, hstep⟩ := Option.bind_eq_some_iff.mp hstep
    cases hstep
    obtain ⟨hanswers, hsilent⟩ := hreceive node route packet.body received.1 received.2 hreceived
    obtain ⟨hle, hone⟩ := hm packet (List.mem_of_getElem? hpacket)
    intro packet' hpacket'
    rcases List.mem_append.mp hpacket' with hpacket' | hpacket'
    · exact hm packet' hpacket'
    obtain ⟨body, hbody, rfl⟩ := List.mem_map.mp hpacket'
    -- a packet that is answered was injected, or it would be an answer itself
    have hzero : packet.generation = 0 := by
      by_contra hne
      rw [hsilent (hone (by omega))] at hbody
      cases hbody
    exact ⟨by simp only [hzero]; omega, fun _ => hanswers body hbody⟩

end

end Reflection
