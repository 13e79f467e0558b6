import CodeJudge.Config
import CodeJudge.Language

/-!
# Toolchains

How the source of each language becomes something that runs. Every language has a toolchain: a
built-in one, unless the configuration sets another. A table of toolchains is a function on
languages, so that there is no language without one.
-/

namespace CodeJudge.Sandbox

/-- How one language turns source text into something that runs. Commands are templates. -/
structure Toolchain where
  fileName : String
  /-- None for a language that runs straight from source. -/
  compile : Option (List String)
  run : List String
  deriving DecidableEq, Repr

/-- Stands in a template for the path of the source. -/
def inputMark : String := "%INPUT%"
/-- Stands in a template for the path of the executable. -/
def outputMark : String := "%OUTPUT%"
/-- Stands in a template for the directory of the job. -/
def directoryMark : String := "%DIR%"

/-- The toolchain of a language when the configuration sets none. -/
def Toolchain.builtin : Language → Toolchain
  | .cpp => {
      fileName := "main.cpp"
      compile := some ["g++", "-O2", "-std=c++17", "-o", outputMark, inputMark]
      run := [outputMark] }
  | .go => {
      fileName := "main.go"
      compile := some ["go", "build", "-o", outputMark, inputMark]
      run := [outputMark] }
  | .java => {
      fileName := "Main.java"
      compile := some ["javac", "-d", directoryMark, inputMark]
      run := ["java", "-cp", directoryMark, "Main"] }
  | .python => {
      fileName := "main.py"
      compile := some ["python3", "-m", "py_compile", inputMark]
      run := ["python3", inputMark] }

/-- The toolchain that an entry of the configuration describes. -/
def Toolchain.ofEntry (entry : LanguageEntry) : Toolchain where
  fileName := entry.fileName
  compile := entry.compile
  run := entry.run

/-- A toolchain for every language. -/
structure Toolchains where
  get : Language → Toolchain

namespace Toolchains

/-- The built-in toolchains. -/
def builtin : Toolchains := ⟨Toolchain.builtin⟩

/-- Sets the toolchain of one language. -/
def set (toolchains : Toolchains) (language : Language) (toolchain : Toolchain) : Toolchains :=
  ⟨fun other => if other = language then toolchain else toolchains.get other⟩

/-- What can be wrong with an entry of the configuration. -/
inductive Fault
  /-- The entry names no language. -/
  | unsupported (name : String)
  /-- The run command, or the compile command that is there, is empty. -/
  | emptyCommand (language : Language)
  deriving DecidableEq, Repr

/-- What is said of a fault. -/
def Fault.message : Fault → String
  | .unsupported name => Language.unsupported name
  | .emptyCommand language => "empty command in toolchain for " ++ language.name

/-- Applies one entry of the configuration. -/
def override (toolchains : Toolchains) (entry : LanguageEntry) : Except Fault Toolchains :=
  match Language.parse? entry.language with
  | none => .error (.unsupported entry.language)
  | some language =>
    if entry.run.isEmpty || entry.compile == some [] then .error (.emptyCommand language)
    else .ok (toolchains.set language (.ofEntry entry))

/-- The built-in toolchains with the entries applied in order. The first bad entry refuses all. -/
def ofConfig (entries : List LanguageEntry) : Except Fault Toolchains :=
  entries.foldlM override builtin

end Toolchains

end CodeJudge.Sandbox
