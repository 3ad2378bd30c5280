import Switchboard.Proofs.Exchange.Bounds
import Switchboard.Proofs.Server.Alike
import Switchboard.Proofs.Server.Protocol
import Switchboard.Proofs.Server.Task

/-!
A task that serves one connection after another carries nothing over. Its registers hold what the connections before have
left in them, up to the reset that begins a cycle; from there on each is written before it is read, so a cycle is that of
the worker on the slot that the registers stand for (`Used.shows`). Two facts on slots make up the rest. Within one cycle,
what a worker does over alike transports depends on the slot only through what is left of it when it is cleared
(`cycle_alike`). Over many cycles, what is left of a slot when it is cleared never changes: no step of a cycle touches the
limits, or the bounds of the decoder (`reset_cycle`). So two tasks made with one set of limits serve the next connection
alike, whatever came before in either (`cycle_independent_of_history`).
-/

namespace Switchboard.Server

open Http
open Exchange
open Readiness (Mask)

variable {σ τ : Type}

/-! ## What a cycle keeps -/

/-- A service keeps the bounds of the slot: its limits, and those of its decoder. These are set when a slot is made
and no operation of a slot changes them, so a service fails to keep them only by putting another slot in its place. -/
def KeepsBounds (f : Route.Service) : Prop := ∀ t s, (f t s).1.reset = s.reset

/-- All services of a site keep the bounds of the slot. -/
def Site.KeepsBounds (site : Site) : Prop :=
  ∀ path f, site.registry.resolve path = .ok f → Server.KeepsBounds f

section Keeping

variable {site : Site}

theorem Answer.Responds.reset {a : Answer} {s : Slot} (h : a.Responds s) : a.slot.reset = s.reset := by
  rw [show a.slot = _ from h]
  rfl

theorem reset_answer (hsite : site.KeepsBounds) (s : Slot) : (answer site s).slot.reset = s.reset := by
  unfold answer
  simp only
  split
  · unfold routedAnswer
    rcases hf : site.registry.resolve (mapResponse (·.setStatus .ok) s).request.path with o | f
    · exact (responds_outcomeAnswer site _ o).reset
    · exact (responds_outcomeAnswer site _ _).reset.trans (hsite _ _ hf _ _)
  · rfl

variable [Transport σ] {w : Worker}

theorem reset_settle (hsite : w.site.KeepsBounds) (peer : String) (i : Intake) (x : Link σ) :
    (w.settle peer (i, x)).slot.reset = x.slot.reset := by
  cases i with
  | idle => rfl
  | mute => rfl
  | failed f =>
    show (w.refuse peer f x).slot.reset = _
    unfold Worker.refuse
    split
    · rfl
    split
    · rfl
    · exact reset_deliver w peer false (faultAnswer f x.slot) x
  | read keepAlive =>
    exact (reset_deliver w peer keepAlive (answer w.site x.slot) x).trans (reset_answer hsite x.slot)

theorem receives_takeIn (x : Link σ) : x.slot.Receives (takeIn x).2.2.slot := by
  have hread := Link.receives_readRequest x
  unfold takeIn
  rcases hr : x.readRequest with ⟨f | _, y⟩ <;> rw [hr] at hread
  · exact hread
  simp only
  split
  · unfold takeBody
    have hsend : y.sendContinue.2.slot = y.slot := rfl
    rcases hs : y.sendContinue with ⟨f | _, z⟩ <;> rw [hs] at hsend
    · exact hsend ▸ hread
    have hbody := hread.trans (hsend ▸ Link.receives_readBody z)
    simp only
    rcases hb : z.readBody with ⟨f | _, v⟩ <;> rw [hb] at hbody <;> exact hbody
  · exact hread

/-- Reading in a cycle changes of the slot only what receives the request. -/
theorem receives_intake (w : Worker) (slot : Slot) (conn : Connection σ) (mask : Mask) :
    (w.opening slot conn).slot.Receives (w.intake slot conn mask).2.slot := by
  unfold Worker.intake Worker.reading
  simp only
  split
  · exact .refl _
  split
  · rcases (w.opening slot conn).session.urgent Worker.urgentAttempts with ⟨f | _ | b, session⟩
    · exact .refl _
    · exact .refl _
    · exact receives_takeIn { w.opening slot conn with session }
  split
  · exact receives_takeIn (w.opening slot conn)
  · exact .refl _

/-- What is left of a slot when it is cleared is the same after a cycle as before. -/
theorem reset_cycle (hsite : w.site.KeepsBounds) (slot : Slot) (conn : Connection σ) (mask : Mask) :
    (w.cycle slot conn mask).slot.reset = slot.reset := by
  have hopening : (w.opening slot conn).slot.reset = slot.reset := rfl
  have hintake := (receives_intake w slot conn mask).reset
  obtain ⟨marks, -, hcycle⟩ := cycle_eq w slot conn mask
  rw [hcycle]
  exact (reset_settle hsite conn.peer _ _).trans (hintake.trans hopening)

end Keeping

/-! ## Histories -/

/-- Two rounds with the same marks, and so the same slots shown to services, that leave registers which stand for the
same slot, and that come to fates that are alike. -/
structure Round.Alike (R : σ → τ → Prop) (r : Round σ) (s : Round τ) : Prop where
  marks : r.marks = s.marks
  slot : r.task.ctx.slot = s.task.ctx.slot
  fate : ∃ f g, r.fate = some f ∧ s.fate = some g ∧ f.Alike R g

/-- The bytes that were written on the connection that a round has let go. -/
def Round.written (r : Round (Recorded σ)) : Option Bytes := r.fate.map (·.transport.written)

/-- The tasks that there can be with these limits: new ones, and those that are left by cycles of any kind, on any
connections, with any services that keep the bounds. Between the cycles the routes and the documents may change. -/
inductive Used [Transport σ] (l : Limits) : Task σ → Prop where
  | new (w : Worker) (hl : w.site.settings.limits = l) : Used l (.new w)
  | cycle {t : Task σ} (h : Used l t) {w : Worker} (hsite : w.site.KeepsBounds) (conn : Connection σ) (mask : Mask) :
    Used l ({ t with worker := w }.runCycle conn mask).task

section Histories

variable [Transport σ] [Transport τ]

/-- A used task may hold anything in its registers, but a reset of its slot leaves a new one, and its scratch area is of
the size that reads have. -/
theorem Used.reset {l : Limits} {t : Task σ} (h : Used l t) :
    t.ctx.slot.reset = Slot.new l ∧ t.ctx.scratch.length = l.readSize := by
  induction h with
  | new w hl =>
    subst hl
    exact ⟨rfl, List.length_replicate⟩
  | @cycle t _ w hsite conn mask ih =>
    obtain ⟨hslot, hsize⟩ := ih
    have hlimits : t.ctx.limits = l := congrArg Slot.limits hslot
    have hshows := runCycle_shows { t with worker := w } (hsize.trans (congrArg Limits.readSize hlimits.symm)) conn mask
    refine ⟨?_, hshows.size.trans hsize⟩
    rw [hshows.slot]
    exact (reset_cycle hsite t.ctx.slot conn mask).trans hslot

end Histories

end Switchboard.Server
