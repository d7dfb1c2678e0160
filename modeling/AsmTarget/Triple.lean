/-
**Target triples.**

A triple names an architecture, a vendor, an operating system and an environment, as in
`x86_64-apple-darwin` or `i386-pc-win32-gnu`. Each part is a closed set of cases with one that
stands for everything else, so that a new or exotic target still has a triple.

* `name`: how a part is written in a triple;
* `tag`: how a part is written in structured data;
* `Triple.text`: the normal form, which leaves out an unknown environment;
* `Triple.objectFormat`: the object-file format that a triple implies.
-/

namespace AsmTarget

/-! ### The four parts -/

/-- The processor family. -/
inductive Architecture where
  /-- Any of the 32-bit processors from the 386 on. -/
  | x86
  | x86_64
  | unknown
  deriving DecidableEq, Repr

/-- The maker of the hardware or of the toolchain. -/
inductive Vendor where
  | apple
  | pc
  | unknown
  deriving DecidableEq, Repr

/-- The operating system. -/
inductive OperatingSystem where
  | darwin
  | macOsx
  | ios
  | linux
  | freeBsd
  | netBsd
  | openBsd
  | solaris
  /-- Windows, under either of its two names. -/
  | win32
  | minGw32
  | cygwin
  /-- No operating system at all. -/
  | freestanding
  | unknown
  deriving DecidableEq, Repr

/-- The binary interface, which may force an object-file format. -/
inductive Environment where
  | gnu
  | msvc
  | android
  /-- ELF output, whatever the system. -/
  | elf
  /-- Mach-O output, whatever the system. -/
  | machO
  | unknown
  deriving DecidableEq, Repr

/-- The object-file formats. -/
inductive ObjectFormat where
  | elf
  | machO
  | coff
  deriving DecidableEq, Repr

namespace Architecture

/-- All architectures. -/
def all : List Architecture := [x86, x86_64, unknown]

/-- How an architecture is written in the normal form of a triple. -/
def name : Architecture → String
  | x86 => "i386"
  | x86_64 => "x86_64"
  | unknown => "unknown"

/-- How an architecture is written in structured data. -/
def tag : Architecture → String
  | x86 => "x86"
  | x86_64 => "x86_64"
  | unknown => "unknown"

/-- The width of a pointer in bits; an unknown architecture counts as a 32-bit one. -/
def pointerWidth : Architecture → Nat
  | x86_64 => 64
  | x86 | unknown => 32

/-- Whether pointers are 64 bits wide. -/
def is64Bit (architecture : Architecture) : Bool :=
  architecture.pointerWidth == 64

end Architecture

namespace Vendor

/-- All vendors. -/
def all : List Vendor := [apple, pc, unknown]

/-- How a vendor is written in a triple. -/
def name : Vendor → String
  | apple => "apple"
  | pc => "pc"
  | unknown => "unknown"

/-- Vendors are written the same way everywhere. -/
def tag (vendor : Vendor) : String :=
  vendor.name

end Vendor

namespace OperatingSystem

/-- All systems. -/
def all : List OperatingSystem :=
  [darwin, macOsx, ios, linux, freeBsd, netBsd, openBsd, solaris, win32, minGw32, cygwin,
    freestanding, unknown]

/-- How a system is written in the normal form of a triple. -/
def name : OperatingSystem → String
  | darwin => "darwin"
  | macOsx => "macosx"
  | ios => "ios"
  | linux => "linux"
  | freeBsd => "freebsd"
  | netBsd => "netbsd"
  | openBsd => "openbsd"
  | solaris => "solaris"
  | win32 => "win32"
  | minGw32 => "mingw32"
  | cygwin => "cygwin"
  | freestanding => "none"
  | unknown => "unknown"

/-- How a system is written in structured data. -/
def tag : OperatingSystem → String
  | darwin => "darwin"
  | macOsx => "mac-osx"
  | ios => "ios"
  | linux => "linux"
  | freeBsd => "free-bsd"
  | netBsd => "net-bsd"
  | openBsd => "open-bsd"
  | solaris => "solaris"
  | win32 => "win32"
  | minGw32 => "min-gw32"
  | cygwin => "cygwin"
  | freestanding => "none"
  | unknown => "unknown"

end OperatingSystem

namespace Environment

/-- All environments. -/
def all : List Environment := [gnu, msvc, android, elf, machO, unknown]

/-- How an environment is written in the normal form of a triple. -/
def name : Environment → String
  | gnu => "gnu"
  | msvc => "msvc"
  | android => "android"
  | elf => "elf"
  | machO => "macho"
  | unknown => "unknown"

/-- How an environment is written in structured data. -/
def tag : Environment → String
  | gnu => "gnu"
  | msvc => "msvc"
  | android => "android"
  | elf => "elf"
  | machO => "mach-o"
  | unknown => "unknown"

end Environment

namespace ObjectFormat

/-- All formats. -/
def all : List ObjectFormat := [elf, machO, coff]

/-- How a format is written for a reader. -/
def name : ObjectFormat → String
  | elf => "Elf"
  | machO => "MachO"
  | coff => "Coff"

/-- How a format is written in structured data. -/
def tag : ObjectFormat → String
  | elf => "elf"
  | machO => "mach-o"
  | coff => "coff"

end ObjectFormat

/-! ### The triple -/

/-- A target as its four parts. -/
structure Triple where
  architecture : Architecture
  vendor : Vendor
  system : OperatingSystem
  environment : Environment
  deriving DecidableEq, Repr

namespace Triple

/-- Whether the system is one of the Darwin family. -/
def isDarwin (triple : Triple) : Bool :=
  match triple.system with
  | .darwin | .macOsx | .ios => true
  | _ => false

/-- Whether the system is one of the Windows family. -/
def isWindows (triple : Triple) : Bool :=
  match triple.system with
  | .win32 | .minGw32 | .cygwin => true
  | _ => false

/-- Windows with the binary interface of the Microsoft tools. -/
def isMicrosoftWindows (triple : Triple) : Bool :=
  triple.system == .win32 && triple.environment != .gnu && triple.environment != .elf

/-- Windows with the binary interface of the GNU tools. -/
def isGnuWindows (triple : Triple) : Bool :=
  triple.system == .minGw32 || triple.system == .cygwin ||
    (triple.system == .win32 && triple.environment == .gnu)

/-- The object-file format: the environment decides first, then the system. -/
def objectFormat (triple : Triple) : ObjectFormat :=
  match triple.environment with
  | .elf => .elf
  | .machO => .machO
  | _ => if triple.isDarwin then .machO else if triple.isWindows then .coff else .elf

/-- The normal form of a triple. -/
def text (triple : Triple) : String :=
  triple.architecture.name ++ "-" ++ triple.vendor.name ++ "-" ++ triple.system.name ++
    if triple.environment = .unknown then "" else "-" ++ triple.environment.name

end Triple

end AsmTarget
