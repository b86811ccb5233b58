import CommandInterpreter.Machine
set_option autoImplicit false

/-!
The machine that a session starts on: the usual directories, the devices, and the provided programs.
-/

namespace CommandInterpreter.Machine

def programs : List (ByteString × Tool) :=
  [("dash", .shell), ("echo", .echo), ("pwd", .pwd), ("env", .env),
    ("printenv", .printenv), ("true", .succeed), ("false", .fail), ("cat", .cat),
    ("sleep", .sleep), ("head", .head), ("tr", .replaceCharacters)]

def standardDirectories : List ByteString :=
  ["/boot", "/dev", "/dev/mqueue", "/dev/pts", "/dev/shm", "/etc", "/etc/alternatives", "/etc/apt",
    "/etc/cron.daily", "/etc/default", "/etc/dpkg", "/etc/init.d", "/etc/ld.so.conf.d",
    "/etc/opt", "/etc/pam.d", "/etc/profile.d", "/etc/security", "/etc/skel", "/etc/ssl",
    "/etc/systemd", "/home", "/media", "/mnt", "/opt", "/proc", "/proc/self", "/proc/self/fd",
    "/proc/sys", "/root", "/run", "/run/lock", "/srv", "/sys", "/sys/class", "/sys/devices",
    "/sys/fs", "/sys/kernel", "/tmp", "/usr", "/usr/bin", "/usr/games", "/usr/include", "/usr/lib",
    "/usr/lib64", "/usr/libexec", "/usr/local", "/usr/local/bin", "/usr/local/etc",
    "/usr/local/games", "/usr/local/include", "/usr/local/lib", "/usr/local/sbin",
    "/usr/local/share", "/usr/local/src", "/usr/sbin", "/usr/share", "/usr/src", "/var",
    "/var/backups", "/var/cache", "/var/lib", "/var/local", "/var/log", "/var/mail", "/var/opt",
    "/var/spool", "/var/tmp"]

def standardLinks : List (ByteString × ByteString) :=
  [("/bin", "usr/bin"), ("/sbin", "usr/sbin"), ("/lib", "usr/lib"), ("/lib64", "usr/lib64"),
    ("/usr/bin/sh", "dash"), ("/var/run", "/run"), ("/var/lock", "/run/lock"),
    ("/dev/fd", "/proc/self/fd"), ("/dev/stdin", "/proc/self/fd/0"),
    ("/dev/stdout", "/proc/self/fd/1"), ("/dev/stderr", "/proc/self/fd/2"),
    ("/proc/self/root", "/"), ("/etc/mtab", "/proc/mounts"), ("/etc/os-release",
      "../usr/lib/os-release")]

/-- The devices, with the descriptors that every process finds as files. -/
def standardDevices : List (ByteString × Device) :=
  [("/dev/null", .null), ("/dev/zero", .zero), ("/dev/full", .full),
    ("/dev/tty", .terminal)]
  ++ (List.range 10).map (fun number =>
    ("/proc/self/fd/" ++ toString number, .descriptor number))

def standardFiles : List (ByteString × ByteString) :=
  [("/etc/passwd", "root:x:0:0:root:/root:/bin/bash\n"), ("/etc/group", "root:x:0:\n"),
    ("/etc/hosts", "127.0.0.1\tlocalhost\n"), ("/etc/hostname", "localhost\n"),
    ("/etc/profile", "\n"), ("/etc/shells", "/bin/sh\n"), ("/etc/fstab", "\n"),
    ("/etc/resolv.conf", "\n"), ("/etc/environment", ""), ("/etc/debian_version", "12.0\n"),
    ("/etc/issue", "\n"), ("/usr/lib/os-release", "ID=debian\n"), ("/proc/version", "Linux\n"),
    ("/proc/mounts", "\n"), ("/proc/cpuinfo", "\n"), ("/proc/meminfo", "\n"),
    ("/proc/uptime", "1.00 1.00\n"), ("/proc/loadavg", "0.00 0.00 0.00 1/1 1\n"),
    ("/proc/self/cmdline", ""), ("/proc/self/environ", ""), ("/proc/self/status", "\n"),
    ("/proc/self/maps", "\n")]

def standardTree : FileTree :=
  let at_ (path : ByteString) : Location := FileTree.names path
  ⟨standardDirectories.map (fun path => (at_ path, Node.directory))
    ++ standardLinks.map (fun (path, target) => (at_ path, .link target))
    ++ standardDevices.map (fun (path, device) => (at_ path, .device device))
    ++ standardFiles.map (fun (path, text) => (at_ path, .file (ByteString.toBytes text) 0o644))
    ++ programs.map (fun (name, tool) => (["usr", "bin", name], .tool tool))⟩

def standard : Machine := ⟨.idle standardTree, some []⟩

def standardAt (location : Location) : Machine :=
  ⟨.idle (standardTree.makeDirectories [] location).1, some location⟩

end CommandInterpreter.Machine
