import KeymapViewer.Host
import KeymapViewer.Proofs.Fault
import Mathlib.Data.List.Basic

/-!
Callbacks that are carried out: what each of them has found by then, what it
has done to its host, and what it hands back.
-/

namespace KeymapViewer

open Wasm

namespace Host

variable {host after : Host} {memory : Memory}

/-! ## Callbacks that succeed -/

theorem resolve_eq_ok_iff {handle : Handle} {value : HostValue} :
    host.resolve handle = .ok value ↔
      host.handles.resolve handle = .ok value := by
  rw [resolve, mapError_eq_ok_iff]

theorem readText_eq_ok_iff (ready : host.memoryReady = true)
    {pointer length : UInt32} {text : String} :
    host.readText memory pointer length = .ok text ↔
      memory.readText pointer length = .ok text := by
  rw [readText, if_pos ready, mapError_eq_ok_iff]

/-- What a module gets for an id. -/
def named (host : Host) (id : String) : HostValue :=
  if host.page.contains id then .element id else .null

def stored (host : Host) (value : HostValue) : Host :=
  { host with handles := (host.handles.add value).2 }

theorem getElementById_eq_ok_iff {document pointer length found : UInt32} :
    host.getElementById memory document pointer length =
        .ok (found, after) ↔
      host.resolve ⟨document⟩ = .ok .document ∧
        ∃ id, host.readText memory pointer length = .ok id ∧
          found = (host.handles.add (host.named id)).1.raw ∧
          after = host.stored (host.named id) := by
  simp only [Host.getElementById, bind, Except.bind]
  cases host.resolve ⟨document⟩ with
  | error fault =>
      simp
  | ok value =>
      cases value with
      | document =>
          cases host.readText memory pointer length with
          | error fault =>
              simp
          | ok id =>
              simp only [true_and, Except.ok.injEq, exists_eq_left']
              constructor
              · intro same
                cases same
                exact ⟨rfl, rfl⟩
              · rintro ⟨rfl, rfl⟩
                rfl
      | _ =>
          apply iff_of_false
          · intro done
            cases done
          · rintro ⟨same, -⟩
            cases same

theorem setInnerHtml_eq_ok_iff {element pointer length : UInt32} :
    host.setInnerHtml memory element pointer length = .ok after ↔
      ∃ id markup page, host.resolve ⟨element⟩ = .ok (.element id) ∧
        host.readText memory pointer length = .ok markup ∧
        host.page.setInnerHtml id markup = .ok page ∧
        after = { host with page } := by
  simp only [Host.setInnerHtml, bind, Except.bind]
  cases host.resolve ⟨element⟩ with
  | error fault =>
      simp
  | ok value =>
      cases value with
      | element id =>
          cases host.readText memory pointer length with
          | error fault =>
              simp
          | ok markup =>
              cases done : host.page.setInnerHtml id markup with
              | error fault =>
                  simp [done]
              | ok page =>
                  simp [done, pure, Except.pure, eq_comm]
      | _ =>
          apply iff_of_false
          · intro done
            cases done
          · rintro ⟨_, _, _, same, -⟩
            cases same

/-! ## Replies -/

/-- What comes of a callback that is carried out. -/
inductive Replies (memory : Memory) (host : Host) :
    HostFunction → List UInt32 → Reply → Prop
  | documentAccessor (arguments : List UInt32) :
      Replies memory host .documentAccessor arguments
        (.results [(host.handles.add .document).1.raw]
          (host.stored .document))
  | getElementById {document pointer length : UInt32} {id : String}
      (resolved : host.resolve ⟨document⟩ = .ok .document)
      (read : host.readText memory pointer length = .ok id) :
      Replies memory host .getElementById [document, pointer, length]
        (.results [(host.handles.add (host.named id)).1.raw]
          (host.stored (host.named id)))
  | setInnerHtml {element pointer length : UInt32} {id markup : String}
      {page : Page} (resolved : host.resolve ⟨element⟩ = .ok (.element id))
      (read : host.readText memory pointer length = .ok markup)
      (replaced : host.page.setInnerHtml id markup = .ok page) :
      Replies memory host .setInnerHtml [element, pointer, length]
        (.results [] { host with page })
  | objectDropRef {handle : UInt32} {handles : HandleTable}
      (released : host.handles.release ⟨handle⟩ = .ok handles) :
      Replies memory host .objectDropRef [handle]
        (.results [] { host with handles })
  | objectCloneRef {handle : UInt32} {copy : Handle} {handles : HandleTable}
      (cloned : host.handles.clone ⟨handle⟩ = .ok (copy, handles)) :
      Replies memory host .objectCloneRef [handle]
        (.results [copy.raw] { host with handles })
  | throw {pointer length : UInt32} {message : String}
      (read : host.readText memory pointer length = .ok message) :
      Replies memory host .throw [pointer, length] (.threw message)
  /-- There is nothing to do for words that do not fit the callback. -/
  | unfit {function : HostFunction} {arguments : List UInt32}
      (differs : arguments.length ≠ function.signature.parameters.length) :
      Replies memory host function arguments (.results [] host)

theorem objectDropRef_eq_ok_iff {handle : UInt32} :
    host.objectDropRef handle = .ok after ↔
      ∃ handles, host.handles.release ⟨handle⟩ = .ok handles ∧
        after = { host with handles } := by
  constructor
  · intro done
    obtain ⟨handles, released, same⟩ := exists_of_bind_eq_ok done
    exact ⟨handles, mapError_eq_ok_iff.mp released,
      (Except.ok.inj same).symm⟩
  · rintro ⟨handles, released, rfl⟩
    rw [objectDropRef, released]
    rfl

theorem objectCloneRef_eq_ok_iff {handle found : UInt32} :
    host.objectCloneRef handle = .ok (found, after) ↔
      ∃ copy handles, host.handles.clone ⟨handle⟩ = .ok (copy, handles) ∧
        found = copy.raw ∧ after = { host with handles } := by
  constructor
  · intro done
    obtain ⟨⟨copy, handles⟩, cloned, same⟩ := exists_of_bind_eq_ok done
    cases same
    exact ⟨copy, handles, mapError_eq_ok_iff.mp cloned, rfl, rfl⟩
  · rintro ⟨copy, handles, cloned, rfl, rfl⟩
    rw [objectCloneRef, cloned]
    rfl

theorem replies_of_answer {function : HostFunction}
    {arguments : List UInt32} {reply : Reply}
    (answered : host.answer memory function arguments = .ok reply) :
    host.Replies memory function arguments reply := by
  unfold answer at answered
  split at answered
  · cases answered
    exact .documentAccessor arguments
  · obtain ⟨⟨found, left⟩, done, answered⟩ := exists_of_bind_eq_ok answered
    cases answered
    obtain ⟨resolved, id, read, rfl, rfl⟩ := getElementById_eq_ok_iff.mp done
    exact .getElementById resolved read
  · obtain ⟨left, done, answered⟩ := exists_of_bind_eq_ok answered
    cases answered
    obtain ⟨id, markup, page, resolved, read, replaced, rfl⟩ :=
      setInnerHtml_eq_ok_iff.mp done
    exact .setInnerHtml resolved read replaced
  · obtain ⟨left, done, answered⟩ := exists_of_bind_eq_ok answered
    cases answered
    obtain ⟨handles, released, rfl⟩ := objectDropRef_eq_ok_iff.mp done
    exact .objectDropRef released
  · obtain ⟨⟨found, left⟩, done, answered⟩ := exists_of_bind_eq_ok answered
    cases answered
    obtain ⟨copy, handles, cloned, rfl, rfl⟩ :=
      objectCloneRef_eq_ok_iff.mp done
    exact .objectCloneRef cloned
  · obtain ⟨message, read, answered⟩ := exists_of_bind_eq_ok answered
    cases answered
    exact .throw read
  · rename_i notAccessor notFind notFill notDrop notClone notThrow
    cases answered
    refine .unfit fun fits => ?_
    cases function with
    | documentAccessor =>
        exact notAccessor rfl
    | getElementById =>
        obtain ⟨document, pointer, length, rfl⟩ :=
          List.length_eq_three.mp fits
        exact notFind document pointer length rfl rfl
    | setInnerHtml =>
        obtain ⟨element, pointer, length, rfl⟩ :=
          List.length_eq_three.mp fits
        exact notFill element pointer length rfl rfl
    | objectDropRef =>
        obtain ⟨handle, rfl⟩ := List.length_eq_one_iff.mp fits
        exact notDrop handle rfl rfl
    | objectCloneRef =>
        obtain ⟨handle, rfl⟩ := List.length_eq_one_iff.mp fits
        exact notClone handle rfl rfl
    | throw =>
        obtain ⟨pointer, length, rfl⟩ := List.length_eq_two.mp fits
        exact notThrow pointer length rfl rfl

end Host

end KeymapViewer
