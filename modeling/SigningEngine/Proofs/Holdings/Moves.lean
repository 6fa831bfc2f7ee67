import SigningEngine.Proofs.Holdings.Run
import SigningEngine.Proofs.Moves

/-!
# How a process moves its surroundings

Whatever a process does with what it holds over an engine consists of calls, of readings of keys and
of references to keys that are given back. A relation that composes, and by which each of these
moves the surroundings, holds between the states before and behind.
-/

namespace SigningEngine

variable {σ κ : Type} {boundary : Boundary σ κ} {R : σ → σ → Prop}

/-- Surroundings move the same way when they are observed. -/
theorem Boundary.MovesBy.observed {altered : DigestHandle → Prop}
    (h : boundary.MovesBy altered R) :
    boundary.observed.MovesBy altered fun before after => R before.1 after.1 where
  refl state := h.refl state.1
  trans := h.trans
  behind state haltered := h.behind state.1 haltered
  read key state := h.read key state.1
  release key state := h.release key state.1

variable (h : boundary.MovesBy (fun _ => True) R)
include h

theorem Context.answer_along (context : Context) (question : Context.Question) :
    Native.Along R (context.answer boundary question) := by
  have hcalled := h.calledBy
  cases question with
  | version =>
      exact Along.bind_pure hcalled.lasting (readVersion_along hcalled context)
  | installPath =>
      exact Along.bind_pure hcalled.lasting (readInstallPath_along hcalled context)
  | approvedMode =>
      exact Along.bind_pure hcalled.lasting (fipsApprovedMode_along hcalled context)

namespace Owner

theorem create_along (context : ContextHandle) (algorithm : String) (kind : Kind) :
    Native.Along R (create boundary context algorithm kind : Attempt σ (Owner κ)).outcome := by
  have hcalled := h.calledBy
  cases kind with
  | digest =>
      exact hcalled.attempt_bind (Digest.create_along hcalled context algorithm) fun _ =>
        hcalled.attempt_pure _
  | signature =>
      exact hcalled.attempt_bind (Signature.create_along hcalled context algorithm) fun _ =>
        hcalled.attempt_pure _

theorem perform_along (signature : Signature κ) (operation : Signature.Operation κ) :
    Native.Along R (signature.perform boundary operation) := by
  have hcalled := h.calledBy
  cases operation with
  | start key plainRsa => exact Signature.start_along h trivial key plainRsa
  | update buffer span =>
      exact Along.bind_pure hcalled.lasting (Signature.update_along hcalled trivial buffer span)
  | sign =>
      exact Along.bind_pure hcalled.lasting (Signature.sign_along hcalled trivial)
  | verify candidate =>
      exact Along.bind_pure hcalled.lasting (Signature.verify_along hcalled trivial candidate)

theorem used_along (owner : Owner κ) (use : Use κ) :
    Native.Along R (owner.used boundary use) := by
  have hcalled := h.calledBy
  cases owner with
  | ofDigest digest =>
      cases use with
      | feed data =>
          exact Along.bind_pure hcalled.lasting (Digest.update_along hcalled trivial data)
      | reset =>
          exact Along.bind_pure hcalled.lasting (Digest.reset_along hcalled trivial)
      | operate operation => exact Along.pure hcalled.lasting _
  | ofSignature signature =>
      cases use with
      | feed data => exact Along.pure hcalled.lasting _
      | reset => exact Along.pure hcalled.lasting _
      | operate operation =>
          exact Along.bind_pure hcalled.lasting (perform_along h signature operation)

theorem drop_along (owner : Owner κ) : Native.Along R (owner.drop boundary).outcome := by
  cases owner with
  | ofDigest digest => exact Digest.free_along h.calledBy trivial
  | ofSignature signature => exact Signature.drop_along h trivial

end Owner

/-- Whatever a process does moves the surroundings by any relation by which calls, readings and
returned references move them. -/
theorem Holdings.perform_along (holdings : Holdings κ) (action : Holdings.Action κ) :
    Native.Along R (holdings.perform boundary action) := by
  have hcalled := h.calledBy
  cases action with
  | createContext fips config =>
      refine Along.bind hcalled.lasting (Context.create_along hcalled fips config) fun outcome => ?_
      cases outcome <;> exact Along.pure hcalled.lasting _
  | ask place question =>
      rw [perform]
      split
      · exact Along.pure hcalled.lasting _
      next context _ =>
        exact Along.bind_pure hcalled.lasting (context.answer_along h question)
  | create place kind algorithm =>
      rw [perform]
      split
      · exact Along.pure hcalled.lasting _
      next context _ =>
        refine Along.bind hcalled.lasting
          (Owner.create_along h context.handle algorithm kind) fun outcome => ?_
        cases outcome <;> exact Along.pure hcalled.lasting _
  | use place use =>
      rw [perform]
      split
      · exact Along.pure hcalled.lasting _
      next held _ =>
        exact Along.bind_pure hcalled.lasting (held.owner.used_along h use)
  | drop place =>
      rw [perform]
      split
      · exact Along.pure hcalled.lasting _
      next held _ =>
        exact Along.bind_pure hcalled.lasting (held.owner.drop_along h)

end SigningEngine
