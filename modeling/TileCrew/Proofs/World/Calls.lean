/-
What is called on a world, call after call (`Call`). Calls fail or not, and only the map is not drawn anew.
- `call_cases`: a call tells agents something, or is a change of the roster, or lets time pass;
- `calls_nodup`: no calls give a key two slots.
-/
import TileCrew.Proofs.World.Giving
import TileCrew.Proofs.World.Registry

namespace TileCrew

/-- what is called on a world: a prompt, a command, a change of the roster, a message, a tick of that length -/
inductive Call where
  | prompt (text : String)
  | command (c : Command)
  | change (c : Change)
  | message (text : Text)
  | time (dt : Float)

namespace World

/-- the world after a call; what was done before it failed stays done -/
def call (w : World) : Call → World
  | .prompt text => (w.handlePrompt text).2
  | .command c => (w.dispatch c).2
  | .change c => w.change c
  | .message text => w.addMessage text
  | .time dt => (w.update dt).2

def calls (w : World) (cs : List Call) : World := cs.foldl call w

theorem calls_cons (w : World) (c : Call) (cs : List Call) : w.calls (c :: cs) = (w.call c).calls cs := rfl

theorem calls_append (w : World) (cs ds : List Call) : w.calls (cs ++ ds) = (w.calls cs).calls ds := by
  simp [calls, List.foldl_append]

/-- a call tells agents something, or is a change, or lets time pass -/
theorem call_cases {R : Agent → Agent → Prop} (hR : PutClosed R) (w : World) (c : Call) :
    Stays R w (w.call c) ∨ (∃ d, w.call c = w.change d) ∨ ∃ dt, w.call c = (w.update dt).2 := by
  cases c with
  | prompt text => exact .inl (handlePrompt_stays hR w text)
  | command c => exact .inl (dispatch_stays hR w c)
  | message text => exact .inl (addMessage_stays hR w text)
  | change d => exact .inr (.inl ⟨d, rfl⟩)
  | time dt => exact .inr (.inr ⟨dt, rfl⟩)

theorem change_nodup {w : World} (c : Change) (h : w.roster.keys.Nodup) : (w.change c).roster.keys.Nodup := by
  rcases w.change_cases c with ⟨hc, -⟩ | ⟨a, ha⟩ | ⟨name, -, hc, -⟩
  · rw [hc]; exact h
  · rw [ha.world]; exact Roster.nodup_put h a
  · rw [hc]; exact Roster.nodup_remove h _

theorem call_nodup {w : World} (c : Call) (h : w.roster.keys.Nodup) : (w.call c).roster.keys.Nodup := by
  rcases call_cases PutClosed.any w c with hs | ⟨d, hd⟩ | ⟨dt, hdt⟩
  · rw [hs.roster.keys_eq]; exact h
  · rw [hd]; exact change_nodup d h
  · have hkeys : (w.call c).roster.keys = w.roster.keys := by rw [hdt]; exact (w.roster.update_kept dt).keys_eq
    rw [hkeys]; exact h

theorem calls_nodup {w : World} (cs : List Call) (h : w.roster.keys.Nodup) : (w.calls cs).roster.keys.Nodup := by
  induction cs generalizing w with
  | nil => exact h
  | cons c cs ih => exact ih (call_nodup c h)

end World

end TileCrew
