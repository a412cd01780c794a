import DockerBastion.Sshd.Channel
import DockerBastion.Sshd.Callback
import DockerBastion.Sshd.Replies
import DockerBastion.Sshd.Relay
import DockerBastion.Sshd.Hangup
import DockerBastion.System.Create
import DockerBastion.Manager.Delete
import DockerBastion.Dashboard.Users
import DockerBastion.System.Revocation
import DockerBastion.System.Ownership
import DockerBastion.System.Linearization
import DockerBastion.System.References
import DockerBastion.System.Ids
import DockerBastion.System.Admins
import DockerBastion.System.Account
import DockerBastion.Manager.SessionKey
import DockerBastion.System.Passwd
import DockerBastion.System.FailedLogins
import DockerBastion.System.Userauth
import DockerBastion.Ssh.Connection
import DockerBastion.Ssh.Nonces
import DockerBastion.Ssh.Keys
import DockerBastion.Ssh.RekeySafety
import DockerBastion.Ssh.RekeyProgress
