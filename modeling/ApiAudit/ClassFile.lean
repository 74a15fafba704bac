/-!
# ClassFile — recognising compiled class files

A compiled class file starts with the four **magic** bytes `CA FE BA BE`; a file that does not
is no class file, whatever its name.
-/

namespace ApiAudit

/-- The first four bytes of every class file. -/
def classMagic : List UInt8 := [0xCA, 0xFE, 0xBA, 0xBE]

/-- Whether bytes start like a class file. -/
def isClassFile (bytes : List UInt8) : Bool := classMagic.isPrefixOf bytes

example : isClassFile [0xCA, 0xFE, 0xBA, 0xBE, 0] = true := by decide
example : isClassFile [0xCA, 0xFE] = false := by decide

end ApiAudit
