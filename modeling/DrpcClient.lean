import DrpcClient.Chain
import DrpcClient.Drcpclient
import DrpcClient.Drpcinterceptors
import DrpcClient.Drcpclientconn
import DrpcClient.Ordering
import DrpcClient.Agreement
