import CrossBuild.Files.Seed

/-!
# Fixtures

The source tree of a scenario: the project file, its sources, and the script
that would run the scenario.
-/
namespace CrossBuild

/-- A source tree: texts by their paths below its root, which are sorted. -/
structure Fixture where
  /-- The files. -/
  files : List (Path × String) := []
  deriving Repr

namespace Fixture

/-- Adds a file to sorted ones, in the stead of one at the same path. -/
def insert (path : Path) (text : String) : List (Path × String) → List (Path × String)
  | [] => [(path, text)]
  | x :: rest =>
    if x.1.components == path.components then (x.1, text) :: rest
    else if path.isBefore x.1 then (path, text) :: x :: rest
    else x :: insert path text rest

/-- Adds a file, in the stead of one at the same path. -/
def withFile (f : Fixture) (path : Path) (text : String) : Fixture :=
  ⟨insert path text f.files⟩

/-- A project `hello` that makes one program. -/
def hello : Fixture :=
  (((({} : Fixture).withFile ⟨"hello.gyp"⟩
      ("\x7b\n" ++
      "  'targets': [\n" ++
      "    \x7b\n" ++
      "      'target_name': 'hello',\n" ++
      "      'type': 'executable',\n" ++
      "      'sources': [ 'hello.c' ],\n" ++
      "    \x7d,\n" ++
      "  ],\n" ++
      "\x7d\n")).withFile ⟨"hello.c"⟩
      ("#include <stdio.h>\n\n" ++
      "int main(void) \x7b\n" ++
      "  printf(\"Hello, world!\\n\");\n" ++
      "  return 0;\n" ++
      "\x7d\n")).withFile ⟨"gyptest-hello.py"⟩ "#!/usr/bin/env python\n")

/-- Writes the fixture below a root. -/
def writeTo (f : Fixture) (root : Path) : Operation Unit :=
  f.files.forM fun x => Seed.plant root (.file x.1 x.2.toUTF8 false)

end Fixture

end CrossBuild
