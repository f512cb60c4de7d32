import SocketDispatcher.Process

/-!
# The global OpenSSL context

{lit}`createContext`, {lit}`createClientContext` and {lit}`dropContext` of
{lit}`InitSsl.cpp`, with every OpenSSL call they make left to the kernel.  The result
code is the global {lit}`sslError` converted to {lit}`int`; it is a 64-bit
{lit}`unsigned long`, so only its low half counts.
-/

namespace SocketDispatcher

open Interaction

namespace SslGlobals

/-- Conversion of the error code to {lit}`int`. -/
def result (ssl : SslGlobals) : Int :=
  (ssl.sslError.setWidth 32).toInt

/-- Record a file that was loaded into the context. -/
def load (ssl : SslGlobals) (what : SslFile) (name : List Byte) : SslGlobals :=
  { ssl with
    sslGlobalCtx := ssl.sslGlobalCtx.map fun ctx =>
      match what with
      | .certificateChain => { ctx with certificateChain := some name }
      | .privateKey => { ctx with privateKey := some name }
      | .verifyLocations => { ctx with verifyLocations := some name } }

/-- Free the context after a failed load and keep the error code. -/
def fail (ssl : SslGlobals) (error : Int) : SslGlobals :=
  { ssl with sslGlobalCtx := none, sslError := BitVec.ofInt 64 error }

end SslGlobals

/-- Change the globals of {lit}`InitSsl.cpp`. -/
def modifySsl (f : SslGlobals → SslGlobals) : Proc Unit :=
  modify fun m => { m with ssl := f m.ssl }

/-- Load one file into the context.  The result tells whether the load
succeeded; if not, the context is freed. -/
def sslLoad (what : SslFile) (name : List Byte) : Proc Bool := do
  let r ← Program.ask (.sslLoad what name)
  if r.ret = 1 then do
    modifySsl (·.load what name)
    pure true
  else do
    let e ← Program.ask .errGetError
    modifySsl (·.fail e.ret)
    pure false

/-- {lit}`return sslError` -/
def returnSslError : Proc Int := do
  let m ← get
  pure m.ssl.result

/-- {lit}`createContext(caFile, crtFile, keyFile, password)` -/
def createContext (caFile crtFile keyFile password : List Byte) : Proc Int := do
  note (.createContext caFile crtFile keyFile)
  let m ← get
  if m.ssl.sslGlobalCtx.isSome then
    pure 0
  else do
    modifySsl fun ssl => { ssl with keyFilePassword := password }
    let r ← Program.ask .sslCtxNew
    modifySsl fun ssl =>
      { ssl with sslGlobalCtx := if r.ret = 0 then none else some {} }
    let certified ← sslLoad .certificateChain crtFile
    if certified then do
      let keyed ← sslLoad .privateKey keyFile
      if keyed then do
        let _ ← sslLoad .verifyLocations caFile
        returnSslError
      else
        returnSslError
    else
      returnSslError

/-- {lit}`createClientContext()` -/
def createClientContext : Proc Int := do
  let m ← get
  if m.ssl.sslGlobalCtx.isSome then
    pure 0
  else do
    let r ← Program.ask .sslCtxNew
    modifySsl fun ssl =>
      { ssl with sslGlobalCtx := if r.ret = 0 then none else some {} }
    returnSslError

/-- {lit}`dropContext()` -/
def dropContext : Proc Unit := do
  let m ← get
  if m.ssl.sslGlobalCtx.isSome then
    modifySsl fun ssl => { ssl with sslGlobalCtx := none }
  else
    pure ()

/-! ## Frame -/

theorem within_modifySsl {I : Memory → Prop} {P : Call → Prop}
    (hssl : ∀ (m : Memory) ssl, I m → I { m with ssl := ssl })
    (f : SslGlobals → SslGlobals) : Within I P (modifySsl f) :=
  within_modify fun m hm => hssl m (f m.ssl) hm

/-- Loading a file only touches the globals of {lit}`InitSsl.cpp`. -/
theorem within_sslLoad {I : Memory → Prop} {P : Call → Prop} {what : SslFile}
    {name : List Byte} (hssl : ∀ (m : Memory) ssl, I m → I { m with ssl := ssl })
    (hload : P (.sslLoad what name)) (herror : P .errGetError) :
    Within I P (sslLoad what name) := by
  refine within_bind (within_ask hload) fun r => within_ite ?_ ?_
  · exact within_bind (within_modifySsl hssl _) fun _ => within_pure _
  · refine within_bind (within_ask herror) fun e => ?_
    exact within_bind (within_modifySsl hssl _) fun _ => within_pure _

/-- Creating a context only touches the globals of {lit}`InitSsl.cpp`, and every file is
loaded as what it is. -/
theorem within_createContext_files {I : Memory → Prop} {P : Call → Prop}
    {caFile crtFile keyFile password : List Byte}
    (hssl : ∀ (m : Memory) ssl, I m → I { m with ssl := ssl })
    (hnote : P (.note (.createContext caFile crtFile keyFile)))
    (hnew : P .sslCtxNew) (hchain : P (.sslLoad .certificateChain crtFile))
    (hkey : P (.sslLoad .privateKey keyFile)) (hca : P (.sslLoad .verifyLocations caFile))
    (herror : P .errGetError) :
    Within I P (createContext caFile crtFile keyFile password) := by
  refine within_bind (within_note hnote) fun _ => ?_
  refine within_get_bind fun m hm => within_ite (within_pure _) ?_
  refine within_bind (within_modifySsl hssl _) fun _ => ?_
  refine within_bind (within_ask hnew) fun r => ?_
  refine within_bind (within_modifySsl hssl _) fun _ => ?_
  have hreturn : Within I P returnSslError := within_get_bind fun m _ => within_pure _
  refine within_bind (within_sslLoad hssl hchain herror) fun certified =>
    within_ite ?_ hreturn
  refine within_bind (within_sslLoad hssl hkey herror) fun keyed => within_ite ?_ hreturn
  exact within_bind (within_sslLoad hssl hca herror) fun _ => hreturn

/-- Creating a context only touches the globals of {lit}`InitSsl.cpp` and only
calls OpenSSL. -/
theorem within_createContext {I : Memory → Prop} {P : Call → Prop}
    {caFile crtFile keyFile password : List Byte}
    (hssl : ∀ (m : Memory) ssl, I m → I { m with ssl := ssl })
    (hnote : P (.note (.createContext caFile crtFile keyFile)))
    (hnew : P .sslCtxNew) (hload : ∀ what name, P (.sslLoad what name))
    (herror : P .errGetError) :
    Within I P (createContext caFile crtFile keyFile password) :=
  within_createContext_files hssl hnote hnew (hload _ _) (hload _ _) (hload _ _) herror

end SocketDispatcher
