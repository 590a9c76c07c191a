/-!
# Where the pods of a transfer find things

Paths, ports and file names that the pods of a transfer, the secrets they mount and the script they
run have to agree on.
-/

namespace VolumeMigration

namespace Layout

/-- Where the pods see the source. -/
def sourcePath : String := "/source"

/-- Where the pods see the destination. -/
def destinationPath : String := "/dest"

/-- The port that the relay listens on. -/
def sshPort : Nat := 22

/-- Where a copying pod sees its private key. -/
def keyDirectory : String := "/etc/pv-migrate"

/-- The file that holds the private key. -/
def privateKeyFile : String := "id_ed25519"

/-- The file that holds the keys that the relay accepts. -/
def authorizedKeysFile : String := "authorized_keys"

/-- Where the relay looks for the keys that it accepts. -/
def sshDirectory : String := "/root/.ssh"

end Layout

end VolumeMigration
