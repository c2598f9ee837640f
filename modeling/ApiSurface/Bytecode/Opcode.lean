/-!
# Operation codes

An operation code is the first byte of an instruction. The codes from 0xca on are reserved.
-/
namespace ApiSurface

/-- The first byte of an instruction. -/
abbrev Opcode := UInt8

namespace Opcode

def iconstM1 : Opcode := 0x02
def iconst0 : Opcode := 0x03
def iconst5 : Opcode := 0x08
def lconst0 : Opcode := 0x09
def lconst1 : Opcode := 0x0a
def fconst0 : Opcode := 0x0b
def fconst2 : Opcode := 0x0d
def dconst0 : Opcode := 0x0e
def dconst1 : Opcode := 0x0f
def bipush : Opcode := 0x10
def sipush : Opcode := 0x11
def ldc : Opcode := 0x12
def ldcW : Opcode := 0x13
def ldc2W : Opcode := 0x14
def iload : Opcode := 0x15
def aload : Opcode := 0x19
def iload0 : Opcode := 0x1a
def aload3 : Opcode := 0x2d
def istore : Opcode := 0x36
def astore : Opcode := 0x3a
def istore0 : Opcode := 0x3b
def astore3 : Opcode := 0x4e
def dup : Opcode := 0x59
def iinc : Opcode := 0x84
def ifeq : Opcode := 0x99
def jsr : Opcode := 0xa8
def ret : Opcode := 0xa9
def tableswitch : Opcode := 0xaa
def lookupswitch : Opcode := 0xab
def areturn : Opcode := 0xb0
def getstatic : Opcode := 0xb2
def putstatic : Opcode := 0xb3
def putfield : Opcode := 0xb5
def invokevirtual : Opcode := 0xb6
def invokespecial : Opcode := 0xb7
def invokestatic : Opcode := 0xb8
def invokeinterface : Opcode := 0xb9
def invokedynamic : Opcode := 0xba
def newObject : Opcode := 0xbb
def newarray : Opcode := 0xbc
def anewarray : Opcode := 0xbd
def athrow : Opcode := 0xbf
def checkcast : Opcode := 0xc0
def instanceOf : Opcode := 0xc1
def wide : Opcode := 0xc4
def multianewarray : Opcode := 0xc5
def ifnull : Opcode := 0xc6
def ifnonnull : Opcode := 0xc7
def gotoW : Opcode := 0xc8
def jsrW : Opcode := 0xc9

/-- Mnemonics of the assigned codes, from zero on. -/
def mnemonics : Array String := #[
    "nop", "aconst_null", "iconst_m1", "iconst_0", "iconst_1", "iconst_2", "iconst_3", "iconst_4",
    "iconst_5", "lconst_0", "lconst_1", "fconst_0", "fconst_1", "fconst_2", "dconst_0",
    "dconst_1", "bipush", "sipush", "ldc", "ldc_w", "ldc2_w", "iload", "lload", "fload", "dload",
    "aload", "iload_0", "iload_1", "iload_2", "iload_3", "lload_0", "lload_1", "lload_2",
    "lload_3", "fload_0", "fload_1", "fload_2", "fload_3", "dload_0", "dload_1", "dload_2",
    "dload_3", "aload_0", "aload_1", "aload_2", "aload_3", "iaload", "laload", "faload", "daload",
    "aaload", "baload", "caload", "saload", "istore", "lstore", "fstore", "dstore", "astore",
    "istore_0", "istore_1", "istore_2", "istore_3", "lstore_0", "lstore_1", "lstore_2",
    "lstore_3", "fstore_0", "fstore_1", "fstore_2", "fstore_3", "dstore_0", "dstore_1",
    "dstore_2", "dstore_3", "astore_0", "astore_1", "astore_2", "astore_3", "iastore", "lastore",
    "fastore", "dastore", "aastore", "bastore", "castore", "sastore", "pop", "pop2", "dup",
    "dup_x1", "dup_x2", "dup2", "dup2_x1", "dup2_x2", "swap", "iadd", "ladd", "fadd", "dadd",
    "isub", "lsub", "fsub", "dsub", "imul", "lmul", "fmul", "dmul", "idiv", "ldiv", "fdiv",
    "ddiv", "irem", "lrem", "frem", "drem", "ineg", "lneg", "fneg", "dneg", "ishl", "lshl",
    "ishr", "lshr", "iushr", "lushr", "iand", "land", "ior", "lor", "ixor", "lxor", "iinc", "i2l",
    "i2f", "i2d", "l2i", "l2f", "l2d", "f2i", "f2l", "f2d", "d2i", "d2l", "d2f", "i2b", "i2c",
    "i2s", "lcmp", "fcmpl", "fcmpg", "dcmpl", "dcmpg", "ifeq", "ifne", "iflt", "ifge", "ifgt",
    "ifle", "if_icmpeq", "if_icmpne", "if_icmplt", "if_icmpge", "if_icmpgt", "if_icmple",
    "if_acmpeq", "if_acmpne", "goto", "jsr", "ret", "tableswitch", "lookupswitch", "ireturn",
    "lreturn", "freturn", "dreturn", "areturn", "return", "getstatic", "putstatic", "getfield",
    "putfield", "invokevirtual", "invokespecial", "invokestatic", "invokeinterface",
    "invokedynamic", "new", "newarray", "anewarray", "arraylength", "athrow", "checkcast",
    "instanceof", "monitorenter", "monitorexit", "wide", "multianewarray", "ifnull", "ifnonnull",
    "goto_w", "jsr_w"]

/-- The mnemonic of an operation code. -/
def mnemonic (opcode : Opcode) : String := mnemonics[opcode.toNat]?.getD "<reserved>"

theorem size_mnemonics : mnemonics.size = 202 := by decide +kernel

end Opcode

end ApiSurface
