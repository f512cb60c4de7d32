import SocketDispatcher.Bytes

/-!
# Application configuration

The part of {lit}`ApplicationConfigImpl` that both programs use at run time: the
three file names, their accessors, and {lit}`retrieveConfigOption`, which reads
one line of the form {lit}`NAME=VALUE`.

Main results:

- Theorem {lit}`retrieveConfigOption_terminated`: a zero-terminated line sets the
  option whose keyword it starts with, whatever follows the terminator.
-/

namespace SocketDispatcher

structure ApplicationConfig where
  caFile : List Byte := []
  certFile : List Byte := []
  keyFile : List Byte := []
deriving DecidableEq

/-- {lit}`CONFIGPID`. -/
def CONFIGPID : List Byte := ascii "CONFIGPPID="
def CAFILE : List Byte := ascii "CAFILE="
def CERTFILE : List Byte := ascii "CERTFILE="
def KEYFILE : List Byte := ascii "KEYFILE="

namespace ApplicationConfig

def setCaFile (cfg : ApplicationConfig) (caFile : List Byte) : ApplicationConfig :=
  { cfg with caFile := caFile }

def setCertFile (cfg : ApplicationConfig) (certFile : List Byte) : ApplicationConfig :=
  { cfg with certFile := certFile }

def setKeyFile (cfg : ApplicationConfig) (keyFile : List Byte) : ApplicationConfig :=
  { cfg with keyFile := keyFile }

/-- Read a configuration option in form {lit}`NAME=VALUE` from a C string. -/
def retrieveConfigOption (cfg : ApplicationConfig) (configLine : List Byte) :
    ApplicationConfig :=
  if memcmp configLine CONFIGPID then
    cfg -- the parent's process id is not stored
  else if memcmp configLine CAFILE then
    cfg.setCaFile (cString (configLine.drop CAFILE.length))
  else if memcmp configLine CERTFILE then
    cfg.setCertFile (cString (configLine.drop CERTFILE.length))
  else if memcmp configLine KEYFILE then
    cfg.setKeyFile (cString (configLine.drop KEYFILE.length))
  else
    cfg

/-- What one line of configuration means: the option whose keyword starts the
line takes the rest of the line, up to a zero byte, as its value. -/
def applyLine (cfg : ApplicationConfig) (line : List Byte) : ApplicationConfig :=
  if CONFIGPID <+: line then
    cfg
  else if CAFILE <+: line then
    cfg.setCaFile (cString (line.drop CAFILE.length))
  else if CERTFILE <+: line then
    cfg.setCertFile (cString (line.drop CERTFILE.length))
  else if KEYFILE <+: line then
    cfg.setKeyFile (cString (line.drop KEYFILE.length))
  else
    cfg

/-- The value of a matched option ends at the terminator of its line. -/
theorem cString_drop_terminated {keyword line : List Byte} (hstart : keyword <+: line)
    (stale : List Byte) :
    cString ((line ++ 0 :: stale).drop keyword.length) =
      cString (line.drop keyword.length) := by
  rcases hstart with ⟨value, rfl⟩
  simp [cString_terminated]

/-- A zero-terminated line sets the option whose keyword it starts with, whatever
earlier lines have left behind the terminator. -/
theorem retrieveConfigOption_terminated (cfg : ApplicationConfig)
    (line stale : List Byte) :
    cfg.retrieveConfigOption (line ++ 0 :: stale) = cfg.applyLine line := by
  unfold retrieveConfigOption applyLine
  have hpid := memcmp_terminated CONFIGPID (by decide) line stale
  have hca := memcmp_terminated CAFILE (by decide) line stale
  have hcert := memcmp_terminated CERTFILE (by decide) line stale
  have hkey := memcmp_terminated KEYFILE (by decide) line stale
  simp only [hpid, hca, hcert, hkey]
  split
  · rfl
  · split
    next hstart => rw [cString_drop_terminated hstart]
    next =>
      split
      next hstart => rw [cString_drop_terminated hstart]
      next =>
        split
        next hstart => rw [cString_drop_terminated hstart]
        next => rfl

/-! ## Lines with a keyword -/

/-- A line that starts with one keyword does not start with a keyword that differs from
it. -/
theorem not_prefix_append {keyword other : List Byte} (h : ¬keyword <+: other)
    (h' : ¬other <+: keyword) (rest : List Byte) : ¬keyword <+: other ++ rest := by
  intro hstart
  rcases List.prefix_or_prefix_of_prefix hstart (List.prefix_append other rest) with
    hprefix | hprefix
  · exact h hprefix
  · exact h' hprefix

theorem applyLine_CONFIGPID (cfg : ApplicationConfig) (value : List Byte) :
    cfg.applyLine (CONFIGPID ++ value) = cfg := by
  rw [applyLine, if_pos (List.prefix_append _ _)]

theorem applyLine_CAFILE (cfg : ApplicationConfig) (value : List Byte) :
    cfg.applyLine (CAFILE ++ value) = cfg.setCaFile (cString value) := by
  rw [applyLine, if_neg (not_prefix_append (by decide) (by decide) _),
    if_pos (List.prefix_append _ _), List.drop_left]

theorem applyLine_CERTFILE (cfg : ApplicationConfig) (value : List Byte) :
    cfg.applyLine (CERTFILE ++ value) = cfg.setCertFile (cString value) := by
  rw [applyLine, if_neg (not_prefix_append (by decide) (by decide) _),
    if_neg (not_prefix_append (by decide) (by decide) _),
    if_pos (List.prefix_append _ _), List.drop_left]

theorem applyLine_KEYFILE (cfg : ApplicationConfig) (value : List Byte) :
    cfg.applyLine (KEYFILE ++ value) = cfg.setKeyFile (cString value) := by
  rw [applyLine, if_neg (not_prefix_append (by decide) (by decide) _),
    if_neg (not_prefix_append (by decide) (by decide) _),
    if_neg (not_prefix_append (by decide) (by decide) _),
    if_pos (List.prefix_append _ _), List.drop_left]

end ApplicationConfig

end SocketDispatcher
