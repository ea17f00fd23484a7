import EventLineage.Failure.Store
import EventLineage.Refusal

/-! # Errors of this library, and wrapped errors

A wrapper either has the wrapped error as its cause, or hides it: then it takes over the text of the
hidden error and goes on to the cause of that. -/
namespace EventLineage.ErrorNode

/-! ## Wrappers -/

/-- An error that is a text and nothing else. -/
def ofText (text : String) : ErrorNode where
  display := text
  debug := Text.quoted text

/-- A text put in front of an error. -/
def context (text : String) (cause : Nat) : ErrorNode where
  display := text
  debug := "Error \x7b"
  cause := cause

/-- An error that hides another one and looks just like it. -/
def hidden (n : ErrorNode) : ErrorNode where
  display := n.display
  debug := n.debug
  cause := n.cause

/-- An error of forgotten type: its form for diagnosis is its text, with its causes below. -/
def erased (n : ErrorNode) : ErrorNode :=
  { hidden n with debug := n.display ++ if n.cause.isSome then "\n\nCaused by:" else "" }

/-- An error that several owners share. -/
def shared (n : ErrorNode) : ErrorNode :=
  { hidden n with
    typeName :=
      "alloc::sync::Arc<dyn core::error::Error + core::marker::Send + core::marker::Sync>" }

/-- Texts put in front of an error one after the other; the last one is outermost. -/
def inContexts (s : ErrorStore) (e : Nat) (texts : List String) : Nat × ErrorStore :=
  texts.foldl (fun (e, s) text => s.add (context text e)) (e, s)

/-! ## Errors of this library -/

def ofRejection (g : CauseGraph Nat) (d : DomainRejection Nat) : ErrorNode where
  display := d.display
  debug := "Rejection \x7b"
  typeName := "causa_events::rejection::Rejection"
  rejection := Rejection.ofDomain g d
  cause := d.cause

/-- A rejection that is hidden, so that no walk sees that it is one. -/
def boxedRejection (n : ErrorNode) : ErrorNode :=
  { hidden n with typeName := "alloc::boxed::Box<causa_events::rejection::Rejection>" }

def ofInputError (e : InputError) : ErrorNode where
  display := e.text
  debug := e.kind
  familiar := Familiar.input

def ofDefect (d : Defect) : ErrorNode where
  display := d.text
  debug := "UnwrapError \x7b"
  familiar := Familiar.defect

def ofAssemblyError (g : CauseGraph Nat) (e : AssemblyError Nat) : ErrorNode where
  display := e.text g
  debug := e.kind ++ "("
  typeName := "causa_events::assembler::AssembleError"
  cause := e.cause

/-- The error of a refusal looks like the error inside it, which it hides. -/
def ofRefusalError (g : CauseGraph Nat) (e : RefusalError Nat) : ErrorNode :=
  let inner := match e with
    | .defect d => { hidden (ofDefect d) with debug := "Unwrap(" }
    | .assembly e => { hidden (ofAssemblyError g e) with debug := "Assemble(" }
  { inner with typeName := "causa_events::factory::RejectError" }

def ofBlankTrace : ErrorNode where
  display := RejectionContext.blankTrace
  debug := "EmptyStacktrace"
  typeName := "causa_events::context::EmptyStacktrace"

def ofEmptyChain : ErrorNode where
  display := Origin.emptyChain
  debug := "EmptyOriginChain"
  typeName := "causa_events::origin::EmptyOriginChain"

end EventLineage.ErrorNode
