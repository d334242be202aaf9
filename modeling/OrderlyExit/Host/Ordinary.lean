import OrderlyExit.Host.Running
import OrderlyExit.Shell.Start
import OrderlyExit.Tool.Table

/-!
An ordinary host: the directories, files, devices and programs that one finds everywhere.
-/

namespace OrderlyExit.Host

namespace Files

/-- The place of a path, whatever stands there; a relative one begins where programs are started. -/
def placeOf (path : ByteText) : Place :=
  (names path).foldl (fun place name =>
    if name = ['.'] then place else if name = ['.', '.'] then place.dropLast else place ++ [name])
    (if path.head? = some '/' then [] else Machine.home)

/-- The directories that lead to a place. -/
def ancestors (place : Place) : List (Place × Entry) :=
  ((List.range place.length).drop 1).map fun n => (place.take n, .directory)

def ordinaryDirectories : List String :=
  ["/bin", "/boot", "/dev", "/dev/fd", "/dev/pts", "/dev/shm", "/etc", "/home", "/lib", "/lib64", "/media", "/mnt",
   "/opt", "/proc", "/root", "/run", "/sbin", "/srv", "/sys", "/tmp", "/usr", "/usr/bin", "/usr/include", "/usr/lib",
   "/usr/local", "/usr/local/bin", "/usr/local/lib", "/usr/local/sbin", "/usr/local/share", "/usr/sbin", "/usr/share",
   "/usr/src", "/var", "/var/cache", "/var/lib", "/var/log", "/var/run", "/var/tmp", "/work"]

/-- Files of text, with their first lines. -/
def ordinaryTexts : List (String × String) :=
  [("/etc/passwd", "root:x:0:0:root:/root:/bin/bash\n"), ("/etc/group", "root:x:0:\n"), ("/etc/shadow", "root:*:19000:0:99999:7:::\n"),
   ("/etc/hosts", "127.0.0.1\tlocalhost\n"), ("/etc/hostname", "host\n"), ("/etc/fstab", "# UNCONFIGURED FSTAB FOR BASE SYSTEM\n"),
   ("/etc/resolv.conf", "nameserver 127.0.0.1\n"), ("/etc/os-release", "ID=debian\n"), ("/etc/shells", "/bin/sh\n/bin/bash\n"),
   ("/etc/profile", "\n"), ("/etc/issue", "Debian GNU/Linux 12 \\n \\l\n"), ("/etc/debian_version", "12\n"),
   ("/etc/nsswitch.conf", "hosts: files dns\n"), ("/etc/machine-id", "\n")]

/-- How many descriptors have names in the directory of devices. -/
def namedDescriptors : Nat := 60

def ordinaryDevices : List (String × Device) :=
  [("/dev/null", .null), ("/dev/zero", .zero), ("/dev/full", .full), ("/dev/random", .random),
   ("/dev/urandom", .random), ("/dev/tty", .terminal), ("/dev/stdin", .descriptor 0), ("/dev/stdout", .descriptor 1),
   ("/dev/stderr", .descriptor 2)] ++
  (List.range namedDescriptors).map fun n => ("/dev/fd/" ++ Decimal.text n, .descriptor n)

/-- The names of the shells with the forms of the language that they read. -/
def shells : List (String × Shell.Dialect) := [("bash", .extended), ("dash", .plain), ("sh", .plain)]

/-- Directories with the same programs. -/
def programDirectories : List String := ["/bin", "/usr/bin"]

def ordinaryPrograms : List (String × ByteText) :=
  programDirectories.flatMap fun dir =>
    (shells.map (·.1) ++ Tool.table.map (·.1)).map fun name => (dir ++ "/" ++ name, name.toList)

/-- All that stands on an ordinary host. -/
def ordinary : List (Place × Entry) :=
  ordinaryDirectories.map (fun path => (placeOf path.toList, .directory)) ++
  ordinaryTexts.map (fun (path, text) => (placeOf path.toList, .file (ByteText.ofBytes (Utf8.ofString text)) 0o644)) ++
  ordinaryDevices.map (fun (path, d) => (placeOf path.toList, .device d)) ++
  ordinaryPrograms.map fun (path, name) => (placeOf path.toList, .program name)

end Files

/-- The name of the worker's program. -/
def workerName : ByteText := "worker".toList

/-- The programs of an ordinary host. -/
def programs : ProgramTable := fun name =>
  match Files.shells.find? fun (n, _) => n.toList = name with
  | some (_, d) => some (Shell.Start.program d)
  | none =>
    let tool := if name = workerName then some Tool.worker else Tool.find? name
    tool.map fun run args environment => (run args environment).program

/-- A host with these files besides the ordinary ones, and the directories that lead to them. The next
process on it has the given id. -/
def withFiles (entries : List (Place × Entry)) (nextPid : Nat) : Machine :=
  let there := entries ++ Files.ordinary
  let missing := (entries.flatMap fun (place, _) => Files.ancestors place).filter fun (place, _) =>
    (there.lookup place).isNone
  { programs, files := ⟨missing.eraseDups ++ there⟩, nextPid }

end OrderlyExit.Host
