import ScriptHost.Program.Ambient
import ScriptHost.Program.Resolution
/-!
# Programs

A program is made of its roots, the default library, and all files that these
lead to. A file is resolved once, with the modules that are declared by then.

- `Program`: the files of a program and what their specifiers refer to.
- `Loading`: a program that is being loaded, with the files still to resolve.
- `Program.load`: the program of some roots.
- `Program.resolved`: what a specifier of a file refers to.
-/

namespace ScriptHost

/-- What the specifiers of one file refer to. -/
abbrev Resolutions := List (String × Option Resolution)

/-- The files that a compilation sees. -/
structure Program where
  options : CompilerOptions
  host : Host
  roots : List String
  files : List SourceFile := []
  /-- The place of each file among the files, by its name. -/
  index : List (String × Nat) := []
  /-- What the specifiers of each file refer to; the file that was resolved last comes first. -/
  resolutions : List (String × Resolutions) := []
  ambient : Ambient := {}
  /-- The files that were read for the program. -/
  cache : SourceCache := {}

namespace Program

/-! ## Adding files -/

/-- Whether a file of that name is loaded. -/
def hasFile (p : Program) (name : String) : Bool := (p.index.lookup name).isSome

/-- The program with one more file, unless it is loaded already. -/
def addFile (p : Program) (path : String) : Program :=
  let (file, cache) := p.cache.get p.host path
  let p := { p with cache }
  if p.hasFile file.name then p
  else
    { p with
      files := p.files ++ [file]
      index := (file.name, p.files.length) :: p.index
      ambient := p.ambient.add file }

/-- The program with what the specifiers of a file refer to. -/
def record (p : Program) (file : String) (known : Resolutions) : Program :=
  { p with resolutions := (file, known) :: p.resolutions }

/-- The program before any specifier is resolved: its roots and the default library. -/
def start (host : Host) (options : CompilerOptions) (roots : List String) : Program :=
  let p := roots.foldl addFile { options, host, roots }
  if host.exists? host.defaultLib then p.addFile host.defaultLib else p

/-- What finds the files of the program. -/
def resolver (p : Program) : Resolver := ⟨p.options, p.host⟩

end Program

/-! ## Loading -/

/-- A program that is being loaded. -/
structure Loading where
  program : Program
  /-- The places of the files whose specifiers are still to be resolved. -/
  queue : List Nat

namespace Loading

/-- Adds the file that a specifier leads to; the last file is then to be resolved. -/
def follow (s : Loading) (found : Option Resolution) : Loading :=
  match found with
  | some (.file target) =>
    if s.program.hasFile target then s
    else
      let p := s.program.addFile target
      ⟨p, s.queue ++ [p.files.length - 1]⟩
  | _ => s

/-- Resolves a specifier of a file, unless it was resolved for the file before. -/
def resolveSpecifier (file : SourceFile) (state : Loading × Resolutions) (specifier : String) :
    Loading × Resolutions :=
  let (s, known) := state
  if known.any (·.1 == specifier) then (s, known)
  else
    let found := s.program.resolver.resolve s.program.ambient.modules file.name specifier
    (s.follow found, known ++ [(specifier, found)])

/-- Resolves the specifiers of a file. -/
def resolveFile (s : Loading) (file : SourceFile) : Loading :=
  let (s, known) := file.specifiers.foldl (resolveSpecifier file) (s, [])
  { s with program := s.program.record file.name known }

/-- Resolves the file that is next in the queue. -/
def next? (s : Loading) : Option Loading :=
  match s.queue with
  | [] => none
  | i :: queue => (s.program.files[i]?).map fun file => { s with queue }.resolveFile file

/-- Resolves the files in the queue, at most `fuel` of them. -/
def run : Nat → Loading → Loading
  | 0, s => s
  | fuel + 1, s =>
    match s.next? with
    | none => s
    | some s => run fuel s

/-- The start of loading: every file is to be resolved. -/
def start (host : Host) (options : CompilerOptions) (roots : List String) : Loading :=
  let p := Program.start host options roots
  ⟨p, List.range p.files.length⟩

/-- As many files as roots and a host can have. -/
def bound (host : Host) (roots : List String) : Nat := roots.length + host.names.length + 1

end Loading

namespace Program

/-- The program of some roots. -/
def load (host : Host) (options : CompilerOptions) (roots : List String) : Program :=
  ((Loading.start host options roots).run (Loading.bound host roots)).program

/-! ## Looking into a program -/

/-- The file of that canonical name. -/
def fileNamed (p : Program) (name : String) : Option SourceFile :=
  (p.index.lookup name).bind fun i => p.files[i]?

/-- The file of a path. -/
def file? (p : Program) (path : String) : Option SourceFile :=
  p.fileNamed (p.host.canonicalName path)

/-- What is recorded for a specifier of a file. -/
def recorded? (p : Program) (file specifier : String) : Option (Option Resolution) :=
  (p.resolutions.lookup file).bind fun known => known.lookup specifier

/-- What a specifier of a file refers to. -/
def resolved (p : Program) (file specifier : String) : Option Resolution :=
  (p.recorded? file specifier).join

/-- The files to compile: the roots but for what is there for others to depend on. -/
def emittable (p : Program) : List SourceFile :=
  (p.roots.filterMap p.file?).filter fun file => !p.host.isLibrary file.name

end Program

end ScriptHost
