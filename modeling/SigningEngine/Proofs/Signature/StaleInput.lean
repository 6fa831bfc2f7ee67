import SigningEngine.Proofs.Signature.Binding
import SigningEngine.Scripted

/-!
# What a signature covers when resets fail

An engine whose digests accumulate appends the data of an update that succeeds and empties the
digest at a reset that succeeds; nothing else changes what a digest holds. Over such an engine a
call that signs or verifies covers what was accepted since the last reset that succeeded. A reset
may fail. When it fails at a start the key is unbound, and nothing is signed until another reset
has succeeded. When it fails behind a sign or a verify the key stays bound, and what was judged
then is judged again.

The main statement is `later_covers`: it says when a judging call covers input of an earlier one.
`tracked_covers_stale` is a run in which the later call succeeds and does.
-/

namespace SigningEngine

variable {σ κ : Type} (boundary : Boundary σ κ)

/-- What a digest holds behind a call to it, by the reply. -/
def heldAfter (held : Bytes) : (call : NativeCall) → Except String call.Reply → Bytes
  | .digestUpdate _ _ data, .ok (.ok ()) => held ++ data
  | .digestReset _ _, .ok (.ok ()) => []
  | _, _ => held

theorem heldAfter_of_judges (held : Bytes) {call : NativeCall} (h : call.judges = true)
    (reply : Except String call.Reply) : heldAfter held call reply = held := by
  cases call with
  | sign context digest key plainRsa => rfl
  | verify context digest key candidate => rfl
  | _ => cases h

/-- Whether a call has to do with a digest that was created. -/
def Digest.Concerned (digest : Digest) : NativeCall → Prop
  | .digestUpdate context handle _ => context = digest.context ∧ handle = digest.handle
  | .digestReset context handle => context = digest.context ∧ handle = digest.handle
  | .sign context handle _ _ => context = digest.context ∧ handle = digest.handle
  | .verify context handle _ _ => context = digest.context ∧ handle = digest.handle
  | _ => False

/-- The digest accumulates: what it holds changes by updates and resets that succeed. -/
structure Digest.Accumulates (digest : Digest) (content : σ → Bytes) : Prop where
  behind {call : NativeCall} (state : σ) :
    digest.Concerned call →
      content (boundary.behind call state) =
        heldAfter (content state) call (boundary.replyTo call state)
  keyHandle (key : κ) (state : σ) : content (boundary.keyHandle key state).2 = content state
  release (key : κ) (state : σ) : content (boundary.release key state) = content state

namespace Note

/-- What the digest holds behind what is noted. -/
def leaves (held : Bytes) : Note σ κ → Bytes
  | .asked _ call reply => heldAfter held call reply
  | .gaveBack _ => held

/-- Whether a reset that succeeded is noted. -/
def clears : Note σ κ → Bool
  | .asked _ (.digestReset _ _) (.ok (.ok ())) => true
  | _ => false

theorem leaves_eq (held : Bytes) (note : Note σ κ) :
    note.leaves held = (if note.clears then [] else held) ++ note.leaves [] := by
  cases note with
  | gaveBack key => exact (List.append_nil held).symm
  | asked state call reply =>
      cases call with
      | digestUpdate context handle data =>
          match reply with
          | .ok (.ok ()) => rfl
          | .ok (.error _) => exact (List.append_nil held).symm
          | .error _ => exact (List.append_nil held).symm
      | digestReset context handle =>
          match reply with
          | .ok (.ok ()) => rfl
          | .ok (.error _) => exact (List.append_nil held).symm
          | .error _ => exact (List.append_nil held).symm
      | _ => exact (List.append_nil held).symm

end Note

/-- What the digest holds behind all that is noted. -/
def heldBehind (held : Bytes) (notes : List (Note σ κ)) : Bytes :=
  notes.foldl Note.leaves held

@[simp] theorem heldBehind_nil (held : Bytes) : heldBehind held ([] : List (Note σ κ)) = held := rfl

@[simp] theorem heldBehind_cons (held : Bytes) (note : Note σ κ) (rest : List (Note σ κ)) :
    heldBehind held (note :: rest) = heldBehind (note.leaves held) rest := rfl

@[simp] theorem heldBehind_append (held : Bytes) (notes more : List (Note σ κ)) :
    heldBehind held (notes ++ more) = heldBehind (heldBehind held notes) more :=
  List.foldl_append

/-- What was held before is still held behind what is noted, unless a reset succeeded there. -/
theorem heldBehind_eq (held : Bytes) (notes : List (Note σ κ)) :
    heldBehind held notes =
      (if notes.any Note.clears then [] else held) ++ heldBehind [] notes := by
  induction notes generalizing held with
  | nil => simp
  | cons note rest ih =>
      rw [heldBehind_cons, heldBehind_cons, ih (note.leaves held), ih (note.leaves []),
        Note.leaves_eq held, List.any_cons]
      cases note.clears with
      | true => simp
      | false => cases rest.any Note.clears <;> simp

/-- Each call that is noted was made to a digest that held what the notes before it say. -/
def Traced (content : σ → Bytes) : Bytes → List (Note σ κ) → Prop
  | _, [] => True
  | held, .gaveBack _ :: rest => Traced content held rest
  | held, .asked state call reply :: rest =>
    content state = held ∧ Traced content (heldAfter held call reply) rest

variable {content : σ → Bytes}

theorem Traced.append {held : Bytes} {notes more : List (Note σ κ)}
    (h : Traced content held notes) (hmore : Traced content (heldBehind held notes) more) :
    Traced content held (notes ++ more) := by
  induction notes generalizing held with
  | nil => exact hmore
  | cons note rest ih =>
      cases note with
      | gaveBack key => exact ih h hmore
      | asked state call reply => exact ⟨h.1, ih h.2 hmore⟩

theorem Traced.content_eq {held : Bytes} {before after : List (Note σ κ)} {state : σ}
    {call : NativeCall} {reply : Except String call.Reply}
    (h : Traced content held (before ++ .asked state call reply :: after)) :
    content state = heldBehind held before := by
  induction before generalizing held with
  | nil => exact h.1
  | cons note rest ih =>
      cases note with
      | gaveBack key => exact ih h
      | asked state call reply => exact ih h.2

/-- What is noted from one state to another tells what the digest held at each call, and what it
holds in the end. -/
def Follows (content : σ → Bytes) (start finish : σ × List (Note σ κ)) : Prop :=
  ∃ notes, finish.2 = start.2 ++ notes ∧ Traced content (content start.1) notes ∧
    content finish.1 = heldBehind (content start.1) notes

namespace Follows

variable {start middle finish : σ × List (Note σ κ)} {digest : Digest}

theorem refl (state : σ × List (Note σ κ)) : Follows content state state :=
  ⟨[], (List.append_nil _).symm, trivial, rfl⟩

theorem trans (first : Follows content start middle) (second : Follows content middle finish) :
    Follows content start finish := by
  obtain ⟨notes, hnotes, htraced, hcontent⟩ := first
  obtain ⟨more, hmore, htracedMore, hfinish⟩ := second
  rw [hcontent] at htracedMore hfinish
  refine ⟨notes ++ more, ?_, htraced.append htracedMore, ?_⟩
  · rw [hmore, hnotes, List.append_assoc]
  · rw [hfinish, heldBehind_append]

variable (h : digest.Accumulates boundary content)
include h

theorem asked {call : NativeCall} (hcall : digest.Concerned call) (state : σ × List (Note σ κ)) :
    Follows content state (boundary.noted.behind call state) :=
  ⟨[.asked state.1 call (boundary.replyTo call state.1)], rfl, ⟨rfl, trivial⟩,
    h.behind state.1 hcall⟩

theorem read (key : κ) (state : σ × List (Note σ κ)) :
    Follows content state (boundary.noted.keyHandle key state).2 :=
  ⟨[], (List.append_nil _).symm, trivial, h.keyHandle key state.1⟩

theorem gaveBack (key : κ) (state : σ × List (Note σ κ)) :
    Follows content state (boundary.noted.release key state) :=
  ⟨[.gaveBack key], rfl, trivial, h.release key state.1⟩

end Follows

namespace Signature

variable {digest : Digest} (h : digest.Accumulates boundary content)
include h

theorem checkedState_follows (signature : Signature κ) (state : σ × List (Note σ κ)) :
    Follows content state (signature.checkedState boundary.noted state) := by
  rw [checkedState, checkedRun]
  cases signature.key with
  | none => exact .refl state
  | some key => exact .read boundary h key state

theorem unboundState_follows (signature : Signature κ) (state : σ × List (Note σ κ)) :
    Follows content state (signature.unboundState boundary.noted state) := by
  rw [unboundState, unboundRun]
  cases signature.key with
  | none => exact .refl state
  | some key => exact .gaveBack boundary h key state

theorem turn_follows {signature : Signature κ} (hdigest : signature.digest = digest)
    (operation : Operation κ) (state : σ × List (Note σ κ)) :
    Follows content state (signature.turn boundary.noted operation state).2.2 := by
  have hreset (state : σ × List (Note σ κ)) :
      Follows content state (boundary.noted.behind signature.resetCall state) := by
    refine .asked boundary h ?_ state
    rw [← hdigest]
    exact ⟨rfl, rfl⟩
  cases operation with
  | start key plainRsa =>
      have hfree := (unboundState_follows boundary h signature state).trans (hreset _)
      rw [turn_start]
      simp only
      split
      · exact hfree.trans (.gaveBack boundary h key _)
      · split
        · exact hfree.trans (.read boundary h key _)
        · exact (hfree.trans (.read boundary h key _)).trans (.gaveBack boundary h key _)
  | update buffer span =>
      rw [turn_update]
      split
      · refine .asked boundary h ?_ state
        rw [← hdigest]
        exact ⟨rfl, rfl⟩
      · exact .refl state
  | sign =>
      have hchecked := checkedState_follows boundary h signature state
      rw [turn_sign]
      simp only
      split
      · refine (hchecked.trans (.asked boundary h ?_ _)).trans (hreset _)
        rw [← hdigest]
        exact ⟨rfl, rfl⟩
      · exact hchecked
  | verify candidate =>
      have hchecked := checkedState_follows boundary h signature state
      rw [turn_verify]
      simp only
      split
      · refine (hchecked.trans (.asked boundary h ?_ _)).trans (hreset _)
        rw [← hdigest]
        exact ⟨rfl, rfl⟩
      · exact hchecked

theorem turns_follows (operations : List (Operation κ)) {signature : Signature κ}
    (hdigest : signature.digest = digest) (state : σ × List (Note σ κ)) :
    Follows content state (signature.turns boundary.noted operations state).2.2 := by
  induction operations generalizing signature state with
  | nil => exact .refl state
  | cons operation rest ih =>
      have hfirst := turn_follows boundary h hdigest operation state
      cases haborts : (signature.turn boundary.noted operation state).1.aborts with
      | true =>
          rw [turns_cons_of_aborts boundary.noted signature rest haborts]
          exact hfirst
      | false =>
          rw [turns_cons boundary.noted signature rest haborts]
          refine hfirst.trans (ih ?_ _)
          rw [turn_digest, hdigest]

/-- What a call covers that is made behind one that signs or verifies. It covers nothing that was
accepted before that one just when a reset between them succeeded, or when there was nothing. -/
theorem later_covers {state : σ} (hempty : content state = []) {operations : List (Operation κ)}
    {before between after : List (Note σ κ)} {earlier later : σ} {judging call : NativeCall}
    {reply : Except String judging.Reply} {outcome : Except String call.Reply}
    (hjudges : judging.judges = true)
    (hnotes : (({ digest } : Signature κ).turns boundary.noted operations (state, [])).2.2.2 =
      before ++ .asked earlier judging reply :: between ++ .asked later call outcome :: after) :
    content earlier = heldBehind [] before ∧
      content later =
        (if between.any Note.clears then [] else content earlier) ++ heldBehind [] between ∧
      (content later = heldBehind [] between ↔
        between.any Note.clears = true ∨ content earlier = []) := by
  have hfollows : Follows content (state, [])
      (({ digest } : Signature κ).turns boundary.noted operations (state, [])).2.2 :=
    turns_follows boundary h operations rfl (state, [])
  obtain ⟨notes, heq, htraced, -⟩ := hfollows
  rw [List.nil_append, hnotes] at heq
  rw [← heq, hempty] at htraced
  have hlater : content later =
      (if between.any Note.clears then [] else content earlier) ++ heldBehind [] between := by
    rw [htraced.content_eq, heldBehind_append, heldBehind_cons, heldBehind_eq, Note.leaves,
      heldAfter_of_judges _ hjudges]
    rw [List.append_assoc] at htraced
    rw [← htraced.content_eq]
  refine ⟨?_, hlater, ?_⟩
  · rw [List.append_assoc] at htraced
    exact htraced.content_eq
  · rw [hlater, List.append_left_eq_self]
    cases between.any Note.clears with
    | true => simp
    | false => simp

end Signature

/-! ### A scripted engine with a digest -/

/-- A scripted engine together with what its digest holds. Keys show their own handle. -/
def Scripted.tracked : Boundary (Scripted.Engine × Bytes) KeyHandle where
  answer call state :=
    let response := state.1.respond call
    { reply := response.reply
      events := response.events
      state := (response.state, heldAfter state.2 call response.reply) }
  keyHandle key state := (key, state)
  keyAlgorithm _ := "RSA"
  release _ state := state

theorem Scripted.tracked_accumulates (digest : Digest) :
    digest.Accumulates Scripted.tracked Prod.snd where
  behind _ _ := rfl
  keyHandle _ _ := rfl
  release _ _ := rfl

namespace Signature

/-- The second reset fails, behind a sign that the engine made. The next sign returns a value, and
all it covers was accepted before the first one. -/
theorem tracked_covers_stale :
    let digest : Digest := { context := ⟨1⟩, handle := ⟨20⟩, algorithm := "SHA256" }
    let engine : Scripted.Engine :=
      { digestReset := { upcoming := [.ok (.ok ()), .ok (.error ⟨"busy"⟩)], rest := .ok (.ok ()) } }
    let call : NativeCall := .sign ⟨1⟩ ⟨20⟩ ⟨7⟩ false
    let ran := ({ digest } : Signature KeyHandle).turns Scripted.tracked.noted
      [.start ⟨7⟩ false, .update [1, 2, 3] (.all [1, 2, 3]), .sign, .sign] ((engine, []), [])
    ran.1.map Turn.succeeded = [true, true, false, true] ∧
      ∃ before between after earlier later reply outcome,
        ran.2.2.2 =
          before ++ .asked earlier call reply :: between ++ .asked later call outcome :: after ∧
        later.2 = [1, 2, 3] ∧ heldBehind [] between = [] :=
  ⟨by decide, [_, _], [_], [_], _, _, _, _, rfl, rfl, rfl⟩

/-- The same engine with resets that succeed: the second sign covers nothing. -/
theorem later_covers_tracked :
    let digest : Digest := { context := ⟨1⟩, handle := ⟨20⟩, algorithm := "SHA256" }
    let call : NativeCall := .sign ⟨1⟩ ⟨20⟩ ⟨7⟩ false
    let ran := ({ digest } : Signature KeyHandle).turns Scripted.tracked.noted
      [.start ⟨7⟩ false, .update [1, 2, 3] (.all [1, 2, 3]), .sign, .sign] (({}, []), [])
    ∃ before between after earlier later reply outcome,
      ran.2.2.2 =
        before ++ .asked earlier call reply :: between ++ .asked later call outcome :: after ∧
      earlier.2 = [1, 2, 3] ∧ later.2 = [] ∧ between.any Note.clears = true := by
  intro digest call ran
  obtain ⟨before, between, after, earlier, later, reply, outcome, hnotes, hbetween, hearlier,
      hclears⟩ : ∃ before between after earlier later reply outcome,
      ran.2.2.2 =
        before ++ .asked earlier call reply :: between ++ .asked later call outcome :: after ∧
      heldBehind [] between = [] ∧ earlier.2 = [1, 2, 3] ∧ between.any Note.clears = true :=
    ⟨[_, _], [_], [_], _, _, _, _, rfl, rfl, rfl, rfl⟩
  have hempty : Prod.snd (({}, []) : Scripted.Engine × Bytes) = [] := rfl
  obtain ⟨-, -, hstale⟩ :=
    later_covers Scripted.tracked (Scripted.tracked_accumulates digest) hempty rfl hnotes
  exact ⟨before, between, after, earlier, later, reply, outcome, hnotes, hearlier,
    (hstale.mpr (.inl hclears)).trans hbetween, hclears⟩

end Signature

end SigningEngine
